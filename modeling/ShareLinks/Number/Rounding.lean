/-!
Rounding a quotient of natural numbers to the nearest integer. A quotient half way between two
integers goes to the even one, the rule that binary floating point and printed decimals share.

Powers of natural numbers are those of core throughout, also where another instance is in sight:
modules that compute with them open `CorePowers`.
-/

namespace ShareLinks

namespace CorePowers
attribute [scoped instance (high)] instPowNat
end CorePowers

/-- The integer nearest to `n / d`, the even one of two that are equally near. -/
def roundDiv (n d : Nat) : Nat :=
  let q := n / d
  let twice := 2 * (n % d)
  if twice < d then q
  else if d < twice then q + 1
  else if q % 2 = 0 then q
  else q + 1

theorem roundDiv_exact (q : Nat) {d : Nat} (h : 0 < d) : roundDiv (q * d) d = q := by
  simp [roundDiv, Nat.mul_div_cancel _ h, h]

example : roundDiv 5 2 = 2 ∧ roundDiv 7 2 = 4 ∧ roundDiv 8 3 = 3 := by decide

end ShareLinks
