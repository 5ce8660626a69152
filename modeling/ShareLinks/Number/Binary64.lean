import ShareLinks.Number.Rounding

/-!
Binary floating point numbers of 64 bits, as exact values. A finite number is a sign, a
significand and a power of two in canonical form, so two of them are equal exactly when they are
the same number with the same sign. Every operation computes an exact quotient of integers and
rounds it once: to the nearest number, ties to the even significand, out of range to infinity.
-/

namespace ShareLinks

open scoped CorePowers

/-- A significand of 53 bits, or a shorter one at the least exponent. -/
def CanonicalBinary (significand : Nat) (exponent : Int) : Prop :=
  (2 ^ (52 : Nat) ≤ significand ∧ significand < 2 ^ (53 : Nat) ∧ -1074 ≤ exponent ∧
      exponent ≤ 971) ∨
    (significand < 2 ^ (52 : Nat) ∧ exponent = -1074)

instance (significand : Nat) (exponent : Int) :
    Decidable (CanonicalBinary significand exponent) := by
  unfold CanonicalBinary
  infer_instance

/-- The datum of a 64-bit binary floating point number; all not-a-numbers are one. -/
inductive Binary64 where
  | nan
  | infinity (negative : Bool)
  | finite (negative : Bool) (significand : Nat) (exponent : Int)
      (canonical : CanonicalBinary significand exponent)
  deriving DecidableEq

namespace Binary64

def zero (negative : Bool) : Binary64 :=
  .finite negative 0 (-1074) (by decide)

/-- Numerator and denominator of `n / d / 2 ^ e`. -/
def atPlace (n d : Nat) (e : Int) : Nat × Nat :=
  if 0 ≤ e then (n, d * 2 ^ e.toNat) else (n * 2 ^ (-e).toNat, d)

/-- The binary place to which a positive quotient `n / d` is rounded: that of its 53rd leading
bit, and never one below `-1074`. -/
def roundingPlace (n d : Nat) : Int :=
  let e : Int := (Nat.log2 n : Int) - (Nat.log2 d : Int) - 53
  let (n', d') := atPlace n d e
  max (if 2 ^ (53 : Nat) * d' ≤ n' then e + 1 else e) (-1074)

/-- The number nearest to `n / d`, where `d` is not zero. -/
def ofRatio (negative : Bool) (n d : Nat) : Binary64 :=
  if n = 0 then zero negative
  else
    let e := roundingPlace n d
    let (n', d') := atPlace n d e
    let rounded := roundDiv n' d'
    let (m, e) := if rounded = 2 ^ (53 : Nat) then (2 ^ (52 : Nat), e + 1) else (rounded, e)
    if h : CanonicalBinary m e then .finite negative m e h else .infinity negative

/-- The number nearest to `n / d` for an integer `n`; there is none when it would be infinite. -/
def ofQuotient? (n : Int) (d : Nat) : Option Binary64 :=
  match ofRatio (n < 0) n.natAbs d with
  | .infinity _ => none
  | x => some x

def ofInt? (n : Int) : Option Binary64 :=
  ofQuotient? n 1

/-- The magnitude of a finite number as numerator and denominator. -/
def magnitude (significand : Nat) (exponent : Int) : Nat × Nat :=
  if 0 ≤ exponent then (significand * 2 ^ exponent.toNat, 1)
  else (significand, 2 ^ (-exponent).toNat)

def truncate? : Binary64 → Option Int
  | .nan => none
  | .infinity _ => none
  | .finite negative m e _ =>
    let (n, d) := magnitude m e
    some (if negative then -((n / d : Nat) : Int) else ((n / d : Nat) : Int))

/-- The product with a positive integer that is itself exact in this format. -/
def scale (k : Nat) : Binary64 → Binary64
  | .nan => .nan
  | .infinity negative => .infinity negative
  | .finite negative m e _ =>
    let (n, d) := magnitude m e
    ofRatio negative (n * k) d

example : (ofRatio false 1 10).truncate? = some 0 := by decide
example : ofRatio false 1 (2 ^ 1075) = zero false ∧
    ofRatio false (2 ^ 1024) 1 = .infinity false := by decide +kernel
example : ((ofRatio true 29 100).scale 100).truncate? = some (-28) := by decide +kernel

end Binary64

/-- A number as documents and clocks give it: an integer of any size or a floating point one. -/
inductive Number where
  | int (n : Int)
  | float (x : Binary64)
  deriving DecidableEq

end ShareLinks
