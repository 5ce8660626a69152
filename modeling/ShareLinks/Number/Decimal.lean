import ShareLinks.Number.Binary64

/-!
Decimal text of numbers. Two ways of writing a floating point number live here: the fewest digits
that read back to it, as `repr` gives them, and a fixed count of two places. The first is
searched for on the decimal grids of one, two, up to seventeen digits, of which each offers the
number's two neighbours; the reader decides which of them are good enough.
-/

namespace ShareLinks

open scoped CorePowers

/-- The decimal digits of a natural number, most significant first. -/
def decimalDigits (n : Nat) : List Char :=
  Nat.toDigits 10 n

def integerText (n : Int) : List Char :=
  if n < 0 then '-' :: decimalDigits n.natAbs else decimalDigits n.natAbs

def digitsValue (cs : List Char) : Nat :=
  cs.foldl (fun n c => 10 * n + (c.toNat - '0'.toNat)) 0

/-- The number `digits * 10 ^ exponent`. -/
structure Decimal where
  digits : Nat
  exponent : Int
  deriving DecidableEq

namespace Decimal

def ratio (d : Decimal) : Nat × Nat :=
  if 0 ≤ d.exponent then (d.digits * 10 ^ d.exponent.toNat, 1)
  else (d.digits, 10 ^ (-d.exponent).toNat)

/-- The floating point number nearest to a decimal. A decimal with more than 310 places before
the point is beyond the largest number, and one that starts after the 325th place behind it
rounds to zero; both are settled without computing the power of ten. -/
def toBinary64 (negative : Bool) (d : Decimal) : Binary64 :=
  let places : Int := (decimalDigits d.digits).length + d.exponent
  if d.digits = 0 then .zero negative
  else if 310 < places then .infinity negative
  else if places < -325 then .zero negative
  else
    let (n, m) := d.ratio
    .ofRatio negative n m

/-- The same number without zeros at the end of its digits; `fuel` bounds their count. -/
def trimmed (fuel : Nat) (d : Decimal) : Decimal :=
  match fuel with
  | 0 => d
  | fuel + 1 =>
    if d.digits ≠ 0 ∧ d.digits % 10 = 0 then trimmed fuel ⟨d.digits / 10, d.exponent + 1⟩
    else d

/-- The decimal that is exactly `significand * 2 ^ exponent`. -/
def ofBinary (significand : Nat) (exponent : Int) : Decimal :=
  if 0 ≤ exponent then ⟨significand * 2 ^ exponent.toNat, 0⟩
  else ⟨significand * 5 ^ (-exponent).toNat, exponent⟩

/-- The place of the leading digit of a positive quotient: the `k` with
`10 ^ k ≤ n / d < 10 ^ (k + 1)`. -/
def leadingPlace (n d : Nat) : Int :=
  let k : Int := ((decimalDigits n).length : Int) - (decimalDigits d).length
  let reached := if 0 ≤ k then d * 10 ^ k.toNat ≤ n else d ≤ n * 10 ^ (-k).toNat
  if reached then k else k - 1

/-- The two neighbours of `n / d` among the multiples of `10 ^ place`, the nearer one first and
the even one first when they are equally near. -/
def neighbours (n d : Nat) (place : Int) : List Decimal :=
  let (n', d') := if 0 ≤ place then (n, d * 10 ^ place.toNat) else (n * 10 ^ (-place).toNat, d)
  let below := n' / d'
  let above := below + 1
  if roundDiv n' d' = below then [⟨below, place⟩, ⟨above, place⟩]
  else [⟨above, place⟩, ⟨below, place⟩]

/-- The decimals that are tried for a finite number, shortest first. -/
def candidates (significand : Nat) (exponent : Int) : List Decimal :=
  let (n, d) := Binary64.magnitude significand exponent
  let k := leadingPlace n d
  (List.range 17).flatMap fun (i : Nat) => neighbours n d (k - i)

/-- The shortest decimal that reads back to `significand * 2 ^ exponent`, nearest of its length,
and all the digits of that number if none of the candidates did. -/
def shortest (significand : Nat) (exponent : Int) (h : CanonicalBinary significand exponent) :
    Decimal :=
  let found := (candidates significand exponent).find? fun d =>
    d.toBinary64 false = .finite false significand exponent h
  let d := found.getD (ofBinary significand exponent)
  d.trimmed (decimalDigits d.digits).length

/-- Where the layout of a number turns from places to an exponent. -/
structure Layout where
  /-- Leading places from here on are written with an exponent. -/
  large : Int
  /-- Leading places below this are written with an exponent. -/
  small : Int

/-- Numbers from `10 ^ 16` on and below `10 ^ -4` are written with an exponent. -/
def plain : Layout := ⟨16, -4⟩

/-- An exponent has a sign and at least two digits. -/
def exponentText (e : Int) : List Char :=
  let ds := decimalDigits e.natAbs
  let ds := if ds.length < 2 then '0' :: ds else ds
  'e' :: (if e < 0 then '-' else '+') :: ds

/-- The text of a decimal whose digits do not end in zero; without an exponent it always has a
point with a digit on either side. -/
def text (layout : Layout) (d : Decimal) : List Char :=
  let ds := decimalDigits d.digits
  if d.digits = 0 then ['0', '.', '0']
  else
    let leading : Int := d.exponent + ds.length - 1
    if leading < layout.small ∨ layout.large ≤ leading then
      match ds with
      | [] => []
      | [c] => c :: exponentText leading
      | c :: rest => c :: '.' :: rest ++ exponentText leading
    else if 0 ≤ d.exponent then ds ++ List.replicate d.exponent.toNat '0' ++ ['.', '0']
    else if 0 ≤ leading then
      let whole := leading.toNat + 1
      ds.take whole ++ '.' :: ds.drop whole
    else '0' :: '.' :: List.replicate (-leading - 1).toNat '0' ++ ds

end Decimal

namespace Binary64

/-- How the numbers that are not finite are spelled, and the minus in front of one. -/
structure Spelling where
  nan : String
  infinity : String

def text (spelling : Spelling) : Binary64 → List Char
  | .nan => spelling.nan.toList
  | .infinity negative => (if negative then ['-'] else []) ++ spelling.infinity.toList
  | .finite negative m e h =>
    let digits := if m = 0 then ⟨0, 0⟩ else Decimal.shortest m e h
    (if negative then ['-'] else []) ++ digits.text Decimal.plain

/-- The text with exactly two places, rounded to the nearest hundredth, ties to even. -/
def twoPlaces (spelling : Spelling) (x : Binary64) (units : Nat) : List Char :=
  match x with
  | .nan => spelling.nan.toList
  | .infinity negative => (if negative then ['-'] else []) ++ spelling.infinity.toList
  | .finite negative m e _ =>
    let (n, d) := magnitude m e
    let hundredths := roundDiv (n * 100) (d * units)
    let rest := hundredths % 100
    (if negative then ['-'] else []) ++ decimalDigits (hundredths / 100) ++
      '.' :: (if rest < 10 then '0' :: decimalDigits rest else decimalDigits rest)

end Binary64
end ShareLinks
