import Mathlib.Data.Rat.Cast.Order
import Mathlib.Tactic.Linarith
import ShareLinks.Number.Rounding

/-!
# Rounding to the nearest integer

A rounded quotient is off by half a unit at most and keeps the order of quotients, so it never
passes an integer that the quotient does not pass. Half way between two integers the even one is
taken, so quotients are rounded up to an even integer from half a unit below it on.
-/

namespace ShareLinks

/-- An integer is off from `n / d` by half a unit at most, and is even where it is off by that. -/
structure IsNearest (n d q : Nat) : Prop where
  above : 2 * (q * d) ≤ 2 * n + d
  below : 2 * n ≤ 2 * (q * d) + d
  even : 2 * (q * d) = 2 * n + d ∨ 2 * n = 2 * (q * d) + d → q % 2 = 0

variable {n m d : Nat}

theorem isNearest_roundDiv (n : Nat) (hd : 0 < d) : IsNearest n d (roundDiv n d) := by
  have division : d * (n / d) + n % d = n := Nat.div_add_mod n d
  have small : n % d < d := Nat.mod_lt n hd
  have same : n / d * d = d * (n / d) := Nat.mul_comm _ _
  have next : (n / d + 1) * d = d * (n / d) + d := by rw [Nat.add_mul, Nat.one_mul, same]
  unfold roundDiv
  dsimp only
  split
  · exact ⟨by omega, by omega, fun tie => by omega⟩
  split
  · exact ⟨by omega, by omega, fun tie => by omega⟩
  split
  · next even => exact ⟨by omega, by omega, fun _ => even⟩
  · next odd => exact ⟨by omega, by omega, fun _ => by omega⟩

namespace IsNearest

theorem le {p q : Nat} (hd : 0 < d) (hn : IsNearest n d p) (hm : IsNearest m d q) (h : n ≤ m) :
    p ≤ q := by
  by_contra passed
  have scaled : (q + 1) * d ≤ p * d := Nat.mul_le_mul_right d (by omega)
  have next : (q + 1) * d = q * d + d := by rw [Nat.add_mul, Nat.one_mul]
  have := hn.above
  have := hm.below
  have successor : q + 1 = p := Nat.eq_of_mul_eq_mul_right hd (by omega)
  have := hn.even (.inl (by omega))
  have := hm.even (.inr (by omega))
  omega

/-- The nearest integer is above an odd one from half a unit above that on. -/
theorem succ_le_iff {p q : Nat} (hd : 0 < d) (h : IsNearest n d p) (odd : q % 2 = 1) :
    q + 1 ≤ p ↔ (2 * q + 1) * d ≤ 2 * n := by
  have half : (2 * q + 1) * d = 2 * (q * d) + d := by
    rw [Nat.add_mul, Nat.one_mul, Nat.mul_assoc]
  have := h.above
  have := h.below
  constructor
  · intro above
    have scaled : (q + 1) * d ≤ p * d := Nat.mul_le_mul_right d above
    rw [Nat.add_mul, Nat.one_mul] at scaled
    omega
  · intro reached
    by_contra below
    have scaled : p * d ≤ q * d := Nat.mul_le_mul_right d (by omega)
    have same : p = q := Nat.eq_of_mul_eq_mul_right hd (by omega)
    have := h.even (.inr (by omega))
    omega

end IsNearest

theorem roundDiv_le_roundDiv (hd : 0 < d) (h : n ≤ m) : roundDiv n d ≤ roundDiv m d :=
  (isNearest_roundDiv n hd).le hd (isNearest_roundDiv m hd) h

/-- An integer that a quotient reaches is reached after rounding. -/
theorem le_roundDiv {q : Nat} (hd : 0 < d) (h : q * d ≤ n) : q ≤ roundDiv n d := by
  have := roundDiv_le_roundDiv hd h
  rwa [roundDiv_exact q hd] at this

/-- An integer that a quotient does not pass is not passed by rounding. -/
theorem roundDiv_le {q : Nat} (hd : 0 < d) (h : n ≤ q * d) : roundDiv n d ≤ q := by
  have := roundDiv_le_roundDiv hd h
  rwa [roundDiv_exact q hd] at this

theorem succ_le_roundDiv_iff {q : Nat} (hd : 0 < d) (odd : q % 2 = 1) :
    q + 1 ≤ roundDiv n d ↔ (2 * q + 1) * d ≤ 2 * n :=
  (isNearest_roundDiv n hd).succ_le_iff hd odd

end ShareLinks
