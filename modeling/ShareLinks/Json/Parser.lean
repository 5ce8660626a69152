import ShareLinks.Json.Basic
import ShareLinks.Text.Hex
import ShareLinks.Text.Numeral

/-!
Reading JSON text, as `json.loads` does for `load_json_blob` of `xraylink.inbound` and for
`read_record` of `xraylink.__main__`. A document is one value with blanks around it and nothing
else. Beyond the common grammar the words `NaN`, `Infinity` and `-Infinity` are numbers, and a field
that occurs twice keeps its first place and its last value.

Reading ends at the leftmost place where a text is no document, or at the first integer that has
more digits than a numeral may have. The functions below hand on the text that is left to read, so a
place is known by how much is left.

Two things are not modelled. Strings here are made of characters, and half of a surrogate pair is
none: a text with nothing wrong in it but the escape of such a half is refused, with an outcome that
says so. And documents may be nested to any depth, where an interpreter limits its recursion.
-/

namespace ShareLinks.Json

inductive Problem where
  | byteOrderMark
  | value
  | extraData
  | fieldName
  | colon
  | comma
  | controlCharacter
  | unterminatedString
  | escape
  | unicodeEscape
  deriving DecidableEq

inductive Failure where
  /-- There is a problem with the text, which is met in front of `rest`. -/
  | malformed (problem : Problem) (rest : List Char)
  | longNumeral (digits : Nat)
  /-- Half of a surrogate pair stands alone in front of `rest`. -/
  | loneSurrogate (rest : List Char)

/-- The outcome of reading something at the front of a text: it, and what follows. -/
abbrev Reading (α : Type) := Except Failure (α × List Char)

def isSpace (c : Char) : Bool :=
  c == ' ' || c == '\t' || c == '\n' || c == '\r'

def skipSpace (cs : List Char) : List Char :=
  cs.dropWhile isSpace

/-- The four digits of a Unicode escape. One more character has to follow them. -/
def readCodeUnit? : List Char → Option (Nat × List Char)
  | a :: b :: c :: d :: e :: rest => do
    let a ← Text.hexValue? a
    let b ← Text.hexValue? b
    let c ← Text.hexValue? c
    let d ← Text.hexValue? d
    pure (((a * 16 + b) * 16 + c) * 16 + d, e :: rest)
  | _ => none

def isHighSurrogate (n : Nat) : Bool :=
  0xD800 ≤ n && n ≤ 0xDBFF

def isLowSurrogate (n : Nat) : Bool :=
  0xDC00 ≤ n && n ≤ 0xDFFF

def readUnit (n : Nat) (rest : List Char) : Reading Char :=
  if isHighSurrogate n || isLowSurrogate n then .error (.loneSurrogate rest)
  else .ok (Char.ofNat n, rest)

/-- A Unicode escape whose `u` is the first character of the text. Two escapes that form a
surrogate pair are one character. -/
def readUnicodeEscape (text : List Char) : Reading Char :=
  match readCodeUnit? (text.drop 1) with
  | none => .error (.malformed .unicodeEscape text)
  | some (high, rest) =>
    if isHighSurrogate high && !(rest.drop 6).isEmpty && rest.take 2 == ['\\', 'u'] then
      match readCodeUnit? (rest.drop 2) with
      | none => .error (.malformed .unicodeEscape (rest.drop 1))
      | some (low, rest') =>
        if isLowSurrogate low then
          .ok (Char.ofNat (0x10000 + (high - 0xD800) * 0x400 + (low - 0xDC00)), rest')
        else readUnit high rest
    else readUnit high rest

def escaped? (c : Char) : Option Char :=
  if c = '"' ∨ c = '\\' ∨ c = '/' then some c
  else if c = 'b' then some '\x08'
  else if c = 'f' then some '\x0c'
  else if c = 'n' then some '\n'
  else if c = 'r' then some '\r'
  else if c = 't' then some '\t'
  else none

/-- The rest of a string up to its closing quote. The characters read so far are in `done`, last
first; `opening` is the text from the opening quote on. -/
def readStringBody (opening : List Char) (fuel : Nat) (done text : List Char) :
    Reading String :=
  match fuel with
  | 0 => .error (.malformed .unterminatedString opening)
  | fuel + 1 =>
    match text with
    | [] => .error (.malformed .unterminatedString opening)
    | '"' :: rest => .ok (String.ofList done.reverse, rest)
    | '\\' :: [] => .error (.malformed .unterminatedString opening)
    | '\\' :: 'u' :: rest =>
      match readUnicodeEscape ('u' :: rest) with
      | .error failure => .error failure
      | .ok (c, rest) => readStringBody opening fuel (c :: done) rest
    | '\\' :: letter :: rest =>
      match escaped? letter with
      | none => .error (.malformed .escape text)
      | some c => readStringBody opening fuel (c :: done) rest
    | c :: rest =>
      if c.toNat < 0x20 then .error (.malformed .controlCharacter text)
      else readStringBody opening fuel (c :: done) rest

/-- A string whose opening quote is the first character of the text; its length is fuel enough. -/
def readString (fuel : Nat) (text : List Char) : Reading String :=
  readStringBody text fuel [] (text.drop 1)

def dropWord? (word text : List Char) : Option (List Char) :=
  if word.isPrefixOf text then some (text.drop word.length) else none

/-- The digits of a fraction and what follows them, for a text that starts with a point and a
digit. -/
def readFraction? : List Char → Option (List Char × List Char)
  | '.' :: c :: rest =>
    if c.isDigit then some ((c :: rest).span Char.isDigit)
    else none
  | _ => none

def readSigned? (text : List Char) : Option (Int × List Char) :=
  let (negative, text) := match text with
    | '-' :: rest => (true, rest)
    | '+' :: rest => (false, rest)
    | _ => (false, text)
  match text.takeWhile Char.isDigit with
  | [] => none
  | ds =>
    let n : Int := digitsValue ds
    some (if negative then -n else n, text.dropWhile Char.isDigit)

def readExponent? : List Char → Option (Int × List Char)
  | c :: rest => if c = 'e' ∨ c = 'E' then readSigned? rest else none
  | [] => none

/-- The digits of a whole number: zero alone, or digits that do not start with zero. -/
def readWhole? : List Char → Option (List Char × List Char)
  | [] => none
  | c :: rest =>
    if c = '0' then some (['0'], rest)
    else if c.isDigit then some ((c :: rest).span Char.isDigit)
    else none

/-- A number without its sign. A fraction or an exponent makes it a floating point number. -/
def readUnsigned? (negative : Bool) (text : List Char) : Option (Json × List Char) :=
  match readWhole? text with
  | none => none
  | some (whole, rest) =>
    let fraction := readFraction? rest
    let afterFraction := (fraction.map (·.2)).getD rest
    let exponent := readExponent? afterFraction
    let afterExponent := (exponent.map (·.2)).getD afterFraction
    if fraction.isNone && exponent.isNone then
      let n : Int := digitsValue whole
      some (.int (if negative then -n else n), rest)
    else
      let places := (fraction.map (·.1)).getD []
      let power := (exponent.map (·.1)).getD 0
      let decimal : Decimal := ⟨digitsValue (whole ++ places), power - places.length⟩
      some (.float (decimal.toBinary64 negative), afterExponent)

def readNumber? : List Char → Option (Json × List Char)
  | '-' :: rest => readUnsigned? true rest
  | text => readUnsigned? false text

def words : List (String × Json) :=
  [("null", .null), ("true", .bool true), ("false", .bool false), ("NaN", .float .nan),
    ("Infinity", .float (.infinity false)), ("-Infinity", .float (.infinity true))]

def readScalar? (text : List Char) : Option (Json × List Char) :=
  let word := words.findSome? fun (word, value) =>
    (dropWord? word.toList text).map fun rest => (value, rest)
  word.or (readNumber? text)

/-- A scalar that was read, unless it is an integer with too many digits. -/
def accept (value : Json) (rest : List Char) : Reading Json :=
  match value with
  | .int n =>
    if Text.isReadable n then .ok (value, rest)
    else .error (.longNumeral (decimalDigits n.natAbs).length)
  | _ => .ok (value, rest)

mutual

/-- A value at the front of a text. Each character is met by at most two of these functions, so
twice the length of the text is fuel enough. -/
def readValue (fuel : Nat) (text : List Char) : Reading Json :=
  match fuel with
  | 0 => .error (.malformed .value text)
  | fuel + 1 =>
    match text with
    | '"' :: _ => (readString fuel text).map fun (s, rest) => (.string s, rest)
    | '[' :: rest =>
      match skipSpace rest with
      | ']' :: rest => .ok (.array [], rest)
      | rest => readItems fuel [] rest
    | '\x7b' :: rest =>
      match skipSpace rest with
      | '\x7d' :: rest => .ok (.object [], rest)
      | rest => readFields fuel [] rest
    | _ =>
      match readScalar? text with
      | some (value, rest) => accept value rest
      | none => .error (.malformed .value text)

/-- The items of an array from the next one on; those before it are in `done`, last first. -/
def readItems (fuel : Nat) (done : List Json) (text : List Char) : Reading Json :=
  match fuel with
  | 0 => .error (.malformed .value text)
  | fuel + 1 =>
    match readValue fuel text with
    | .error failure => .error failure
    | .ok (value, rest) =>
      match skipSpace rest with
      | ']' :: rest => .ok (.array (value :: done).reverse, rest)
      | ',' :: rest => readItems fuel (value :: done) (skipSpace rest)
      | rest => .error (.malformed .comma rest)

/-- The fields of an object from the next one on, added to those in `done`. -/
def readFields (fuel : Nat) (done : Fields) (text : List Char) : Reading Json :=
  match fuel with
  | 0 => .error (.malformed .fieldName text)
  | fuel + 1 =>
    match text with
    | '"' :: _ =>
      match readString fuel text with
      | .error failure => .error failure
      | .ok (name, rest) =>
        match skipSpace rest with
        | ':' :: rest =>
          match readValue fuel (skipSpace rest) with
          | .error failure => .error failure
          | .ok (value, rest) =>
            match skipSpace rest with
            | '\x7d' :: rest => .ok (.object (done.put name value), rest)
            | ',' :: rest => readFields fuel (done.put name value) (skipSpace rest)
            | rest => .error (.malformed .comma rest)
        | rest => .error (.malformed .colon rest)
    | _ => .error (.malformed .fieldName text)

end

def readDocument (text : List Char) : Except Failure Json :=
  match text with
  | '\ufeff' :: _ => .error (.malformed .byteOrderMark text)
  | _ =>
    match readValue (2 * text.length + 1) (skipSpace text) with
    | .error failure => .error failure
    | .ok (value, rest) =>
      match skipSpace rest with
      | [] => .ok value
      | rest => .error (.malformed .extraData rest)

/-- The text with another escape for the half of a surrogate pair that stands before `rest`. -/
def mend (text rest : List Char) : List Char :=
  text.take (text.length - rest.length - 4) ++ "fffd".toList ++ rest

/-- A whole document. Half of a surrogate pair is in its way only if nothing behind it is, which is
found by reading on with another character in its place. -/
def readMended (fuel : Nat) (text : List Char) : Except Failure Json :=
  match fuel, readDocument text with
  | fuel + 1, .error (.loneSurrogate rest) =>
    match readMended fuel (mend text rest) with
    | .ok _ => .error (.loneSurrogate rest)
    | .error failure => .error failure
  | _, outcome => outcome

/-- A problem with a text and its place: characters before it, its line and its column. -/
structure SyntaxError where
  problem : Problem
  offset : Nat
  line : Nat
  column : Nat
  deriving DecidableEq

inductive Refusal where
  | malformed (error : SyntaxError)
  | longNumeral (digits : Nat)
  | loneSurrogate
  deriving DecidableEq

/-- The place of a problem in a text, of which `rest` was not read. -/
def Problem.locate (problem : Problem) (text rest : List Char) : SyntaxError :=
  let offset := text.length - rest.length
  let before := text.take offset
  { problem
    offset
    line := before.count '\n' + 1
    column := (before.reverse.takeWhile (· != '\n')).length + 1 }

def Failure.refusal (text : List Char) : Failure → Refusal
  | malformed problem rest => .malformed (problem.locate text rest)
  | longNumeral digits => .longNumeral digits
  | loneSurrogate _ => .loneSurrogate

def parse (text : List Char) : Except Refusal Json :=
  match readMended text.length text with
  | .ok value => .ok value
  | .error failure => .error (failure.refusal text)

def Problem.message : Problem → String
  | .byteOrderMark => "Unexpected UTF-8 BOM (decode using utf-8-sig)"
  | .value => "Expecting value"
  | .extraData => "Extra data"
  | .fieldName => "Expecting property name enclosed in double quotes"
  | .colon => "Expecting ':' delimiter"
  | .comma => "Expecting ',' delimiter"
  | .controlCharacter => "Invalid control character at"
  | .unterminatedString => "Unterminated string starting at"
  | .escape => "Invalid \\escape"
  | .unicodeEscape => "Invalid \\uXXXX escape"

def SyntaxError.message (e : SyntaxError) : String :=
  e.problem.message ++ ": line " ++ String.ofList (decimalDigits e.line) ++
    " column " ++ String.ofList (decimalDigits e.column) ++
    " (char " ++ String.ofList (decimalDigits e.offset) ++ ")"

end ShareLinks.Json
