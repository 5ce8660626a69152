import ShareLinks.Number.Decimal
import ShareLinks.Text.Blank
import ShareLinks.Text.Table

/-!
Whole numbers written in text, in the decimal digits of any script, as `int` reads them. A field
of a document is read with at most one minus in front; a word of a command line may also have a
plus, blanks around it and single underscores between its digits. Neither reads a numeral that is
longer than 4300 digits.
-/

namespace ShareLinks.Text

/-- The zeros of the scripts that have decimal digits; the other nine digits follow each of them. -/
def decimalZeros : Ranges := readRanges "
30 660 6F0 7C0 966 9E6 A66 AE6 B66 BE6 C66 CE6 D66 DE6 E50 ED0 F20 1040 1090 17E0 1810 1946 19D0
1A80 1A90 1B50 1BB0 1C40 1C50 A620 A8D0 A900 A9D0 A9F0 AA50 ABF0 FF10 104A0 10D30 11066 110F0
11136 111D0 112F0 11450 114D0 11650 116C0 11730 118E0 11950 11C50 11D50 11DA0 16A60 16AC0 16B50
1D7CE 1D7D8 1D7E2 1D7EC 1D7F6 1E140 1E2F0 1E950 1FBF0"

/-- Digits outside decimal notation: superscripts, digits in circles and the like. -/
def otherDigits : Ranges := readRanges "
B2-B3 B9 1369-1371 19DA 2070 2074-2079 2080-2089 2460-2468 2474-247C 2488-2490 24EA 24F5-24FD
24FF 2776-277E 2780-2788 278A-2792 10A40-10A43 10E60-10E68 11052-1105A 1F100-1F10A"

/-- The value of a decimal digit of any script. -/
def decimalValue? (c : Char) : Option Nat :=
  if c.toNat < 0x80 then
    if '0' ≤ c ∧ c ≤ '9' then some (c.toNat - '0'.toNat) else none
  else
    (decimalZeros.find? fun (first, _) => first ≤ c.toNat && c.toNat ≤ first + 9).map
      fun (first, _) => c.toNat - first

/-- A digit of any kind, of decimal notation or not. -/
def isDigit (c : Char) : Bool :=
  (decimalValue? c).isSome || otherDigits.contains c

/-- The most digits that a numeral may have. -/
def maxDigits : Nat := 4300

def isReadable (n : Int) : Bool :=
  (decimalDigits n.natAbs).length ≤ maxDigits

inductive NumeralError where
  | malformed
  | tooLong (digits : Nat)
  deriving DecidableEq

/-- The value of digits, all of which have to be decimal. -/
def readDigits (cs : List Char) : Except NumeralError Nat :=
  let leading := (cs.takeWhile fun c => (decimalValue? c).isSome).length
  if maxDigits < leading then .error (.tooLong leading)
  else if cs.isEmpty then .error .malformed
  else match cs.mapM decimalValue? with
    | some values => .ok (values.foldl (fun n v => 10 * n + v) 0)
    | none => .error .malformed

def readInteger : List Char → Except NumeralError Int
  | '-' :: cs => (readDigits cs).map fun n => -(n : Int)
  | cs => (readDigits cs).map fun n => (n : Int)

/-- Blanks around a word: white space without the information separators. -/
def isMargin (c : Char) : Bool :=
  isBlank c && !(28 ≤ c.toNat && c.toNat ≤ 31)

/-- The digits of a word without the single underscores between them; an underscore anywhere
else stays and spoils the numeral. -/
def withoutUnderscores : List Char → List Char
  | a :: '_' :: b :: cs =>
    if isDigit a && isDigit b then a :: withoutUnderscores (b :: cs)
    else a :: '_' :: withoutUnderscores (b :: cs)
  | c :: cs => c :: withoutUnderscores cs
  | [] => []

def readWord (cs : List Char) : Option Int :=
  let cs := ((cs.dropWhile isMargin).reverse.dropWhile isMargin).reverse
  let read := match cs with
    | '+' :: rest => (readDigits (withoutUnderscores rest)).map fun n => (n : Int)
    | _ => readInteger (withoutUnderscores cs)
  read.toOption

example : readWord " +1_000\n".toList = some 1000 ∧ readWord "1__0".toList = none ∧
    readWord "_1".toList = none ∧ readWord "- 5".toList = none := by decide +kernel
example : (readInteger "-80".toList).toOption = some (-80) ∧
    (readInteger "--80".toList).toOption = none := by decide +kernel

end ShareLinks.Text
