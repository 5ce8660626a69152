import Mathlib.Algebra.Order.Field.Power
import Mathlib.Data.Int.Log
import Mathlib.Data.Rat.Floor
import Mathlib.Tactic.Positivity
import Mathlib.Tactic.Linarith
import ShareLinks.Number.Binary64

/-!
# Nearest numbers of 64-bit binary floating point

The place to which a quotient is rounded is read off its binary logarithm, so rounding depends on
the value of a quotient and not on the terms in which it is written. A quotient that is a number
of the format already is rounded to that number.
-/

namespace ShareLinks

/-- Rounding to an integer depends on the quotient alone. -/
theorem roundDiv_mul_right (n d : Nat) {c : Nat} (hc : 0 < c) :
    roundDiv (n * c) (d * c) = roundDiv n d := by
  have scale : ∀ a b : Nat, 2 * (a * c) < b * c ↔ 2 * a < b := by
    intro a b
    rw [← Nat.mul_assoc]
    exact Nat.mul_lt_mul_right hc
  have scale' : ∀ a b : Nat, b * c < 2 * (a * c) ↔ b < 2 * a := by
    intro a b
    rw [← Nat.mul_assoc]
    exact Nat.mul_lt_mul_right hc
  simp only [roundDiv, Nat.mul_div_mul_right _ _ hc, Nat.mul_mod_mul_right, scale, scale']

namespace Binary64

theorem atPlace_pos (n : Nat) {d : Nat} (hd : 0 < d) (e : Int) : 0 < (atPlace n d e).2 := by
  unfold atPlace
  split
  · exact Nat.mul_pos hd (Nat.two_pow_pos _)
  · exact hd

theorem atPlace_mul_right (n d c : Nat) (e : Int) :
    atPlace (n * c) (d * c) e = ((atPlace n d e).1 * c, (atPlace n d e).2 * c) := by
  unfold atPlace
  split <;> simp [Nat.mul_right_comm]

/-- The terms at a place are those of the quotient divided by a power of two. -/
theorem atPlace_ratio (n d : Nat) (e : Int) :
    ((atPlace n d e).1 : ℚ) / (atPlace n d e).2 = (n : ℚ) / d / 2 ^ e := by
  unfold atPlace
  split
  · next he =>
    have power : (2 : ℚ) ^ e = 2 ^ e.toNat := by
      rw [← zpow_natCast, Int.toNat_of_nonneg he]
    push_cast
    rw [power, div_div]
  · next he =>
    have power : (2 : ℚ) ^ e = (2 ^ (-e).toNat)⁻¹ := by
      rw [← zpow_natCast, Int.toNat_of_nonneg (by omega), ← zpow_neg, neg_neg]
    push_cast
    rw [power, div_inv_eq_mul, div_mul_eq_mul_div]

theorem le_iff_log {x : ℚ} (hx : 0 < x) (k : Int) : (2 : ℚ) ^ k ≤ x ↔ k ≤ Int.log 2 x := by
  have h := Int.zpow_le_iff_le_log (b := 2) (by norm_num) (x := k) hx
  exact_mod_cast h

theorem lt_iff_log {x : ℚ} (hx : 0 < x) (k : Int) : x < (2 : ℚ) ^ k ↔ Int.log 2 x < k := by
  have h := Int.lt_zpow_iff_log_lt (b := 2) (by norm_num) (x := k) hx
  exact_mod_cast h

/-- The logarithm of a quotient is the difference of the logarithms, or one less. -/
theorem log_ratio_bounds {n d : Nat} (hn : 0 < n) (hd : 0 < d) :
    (Nat.log2 n : Int) - Nat.log2 d - 1 ≤ Int.log 2 ((n : ℚ) / d) ∧
      Int.log 2 ((n : ℚ) / d) ≤ (Nat.log2 n : Int) - Nat.log2 d := by
  have hx : (0 : ℚ) < (n : ℚ) / d := by positivity
  have hd' : (0 : ℚ) < d := by positivity
  have nLow : (2 : ℚ) ^ (Nat.log2 n : Int) ≤ n := by
    rw [zpow_natCast]; exact_mod_cast Nat.log2_self_le (by omega)
  have nHigh : (n : ℚ) < 2 ^ ((Nat.log2 n : Int) + 1) := by
    have h : n < 2 ^ (Nat.log2 n + 1) := Nat.lt_log2_self
    rw [← Nat.cast_succ, zpow_natCast]; exact_mod_cast h
  have dLow : (2 : ℚ) ^ (Nat.log2 d : Int) ≤ d := by
    rw [zpow_natCast]; exact_mod_cast Nat.log2_self_le (by omega)
  have dHigh : (d : ℚ) < 2 ^ ((Nat.log2 d : Int) + 1) := by
    have h : d < 2 ^ (Nat.log2 d + 1) := Nat.lt_log2_self
    rw [← Nat.cast_succ, zpow_natCast]; exact_mod_cast h
  constructor
  · rw [← le_iff_log hx, le_div_iff₀ hd']
    calc (2 : ℚ) ^ ((Nat.log2 n : Int) - Nat.log2 d - 1) * d
        ≤ 2 ^ ((Nat.log2 n : Int) - Nat.log2 d - 1) * 2 ^ ((Nat.log2 d : Int) + 1) :=
          mul_le_mul_of_nonneg_left dHigh.le (by positivity)
      _ = 2 ^ (Nat.log2 n : Int) := by
          rw [← zpow_add₀ (by norm_num)]; congr 1; omega
      _ ≤ n := nLow
  · have h : (n : ℚ) / d < 2 ^ ((Nat.log2 n : Int) - Nat.log2 d + 1) := by
      rw [div_lt_iff₀ hd']
      calc (n : ℚ) < 2 ^ ((Nat.log2 n : Int) + 1) := nHigh
        _ = 2 ^ ((Nat.log2 n : Int) - Nat.log2 d + 1) * 2 ^ (Nat.log2 d : Int) := by
            rw [← zpow_add₀ (by norm_num)]; congr 1; omega
        _ ≤ 2 ^ ((Nat.log2 n : Int) - Nat.log2 d + 1) * d :=
            mul_le_mul_of_nonneg_left dLow (by positivity)
    have := (lt_iff_log hx _).mp h
    omega

/-- The place of rounding leaves 53 bits before it, and is never below the least exponent. -/
theorem roundingPlace_eq {n d : Nat} (hn : 0 < n) (hd : 0 < d) :
    roundingPlace n d = max (Int.log 2 ((n : ℚ) / d) - 52) (-1074) := by
  obtain ⟨low, high⟩ := log_ratio_bounds hn hd
  have hx : (0 : ℚ) < (n : ℚ) / d := by positivity
  simp only [roundingPlace]
  generalize hk : (Nat.log2 n : Int) - Nat.log2 d - 53 = k
  have hp : (0 : ℚ) < (atPlace n d k).2 := by exact_mod_cast atPlace_pos n hd k
  have above : 2 ^ 53 * (atPlace n d k).2 ≤ (atPlace n d k).1 ↔
      k + 53 ≤ Int.log 2 ((n : ℚ) / d) := by
    rw [← le_iff_log hx, zpow_add₀ (by norm_num), mul_comm (_ ^ k), ← le_div_iff₀ (by positivity),
      ← atPlace_ratio, le_div_iff₀ hp]
    norm_cast
  congr 1
  split
  · next h => have := above.mp h; omega
  · next h => have := mt above.mpr h; omega

/-- Rounding depends on the quotient alone. -/
theorem ofRatio_mul_right (negative : Bool) (n : Nat) {d c : Nat} (hd : 0 < d) (hc : 0 < c) :
    ofRatio negative (n * c) (d * c) = ofRatio negative n d := by
  by_cases hn : n = 0
  · simp [ofRatio, hn]
  · have hn' : 0 < n := Nat.pos_of_ne_zero hn
    have value : ((n * c : Nat) : ℚ) / (d * c : Nat) = (n : ℚ) / d := by
      have : (c : ℚ) ≠ 0 := by positivity
      push_cast
      rw [mul_div_mul_right _ _ this]
    have place : roundingPlace (n * c) (d * c) = roundingPlace n d := by
      rw [roundingPlace_eq (Nat.mul_pos hn' hc) (Nat.mul_pos hd hc), roundingPlace_eq hn' hd, value]
    have nonzero : n * c ≠ 0 := Nat.mul_ne_zero hn (by omega)
    simp only [ofRatio, if_neg hn, if_neg nonzero, place, atPlace_mul_right,
      roundDiv_mul_right _ _ hc]

/-- Quotients of the same value are rounded to the same number. -/
theorem ofRatio_congr (negative : Bool) {n d n' d' : Nat} (hd : 0 < d) (hd' : 0 < d')
    (h : n * d' = n' * d) : ofRatio negative n d = ofRatio negative n' d' := by
  rw [← ofRatio_mul_right negative n hd hd', h, Nat.mul_comm d d',
    ofRatio_mul_right negative n' hd' hd]

theorem roundingPlace_canonical {m : Nat} {e : Int} (hm : m ≠ 0) (h : CanonicalBinary m e)
    {n d : Nat} (hd : 0 < d) (value : (n : ℚ) / d = m * 2 ^ e) : roundingPlace n d = e := by
  have hm' : (0 : ℚ) < m := by exact_mod_cast Nat.pos_of_ne_zero hm
  have hx : (0 : ℚ) < (m : ℚ) * 2 ^ e := by positivity
  have hn : 0 < n := by
    rcases Nat.eq_zero_or_pos n with rfl | hn
    · rw [Nat.cast_zero, zero_div] at value
      exact absurd value hx.ne
    · exact hn
  rw [roundingPlace_eq hn hd, value]
  have below : ∀ k : Nat, m < 2 ^ k → Int.log 2 ((m : ℚ) * 2 ^ e) < k + e := by
    intro k hk
    rw [← lt_iff_log hx, zpow_add₀ (by norm_num), zpow_natCast]
    have : (m : ℚ) < 2 ^ k := by exact_mod_cast hk
    exact mul_lt_mul_of_pos_right this (by positivity)
  rcases h with ⟨low, high, least, _⟩ | ⟨high, least⟩
  · have upper := below 53 high
    have lower : (52 : Nat) + e ≤ Int.log 2 ((m : ℚ) * 2 ^ e) := by
      rw [← le_iff_log hx, zpow_add₀ (by norm_num), zpow_natCast]
      have : (2 : ℚ) ^ 52 ≤ m := by exact_mod_cast low
      exact mul_le_mul_of_nonneg_right this (by positivity)
    omega
  · have upper := below 52 high
    omega

theorem ofRatio_canonical (negative : Bool) {m : Nat} {e : Int} (hm : m ≠ 0)
    (h : CanonicalBinary m e) {n d : Nat} (hd : 0 < d) (value : (n : ℚ) / d = m * 2 ^ e) :
    ofRatio negative n d = .finite negative m e h := by
  have place := roundingPlace_canonical hm h hd value
  have hn : n ≠ 0 := by
    rintro rfl
    have hm' : (0 : ℚ) < m := by exact_mod_cast Nat.pos_of_ne_zero hm
    have hx : (0 : ℚ) < (m : ℚ) * 2 ^ e := by positivity
    rw [Nat.cast_zero, zero_div] at value
    exact absurd value hx.ne
  have exact_ : (atPlace n d e).1 = m * (atPlace n d e).2 := by
    have hp : (0 : ℚ) < (atPlace n d e).2 := by exact_mod_cast atPlace_pos n hd e
    have ratio := atPlace_ratio n d e
    rw [value, mul_div_assoc, div_self (by positivity), mul_one, div_eq_iff hp.ne'] at ratio
    exact_mod_cast ratio
  have rounded : roundDiv (atPlace n d e).1 (atPlace n d e).2 = m := by
    rw [exact_, roundDiv_exact m (atPlace_pos n hd e)]
  have hm53 : m ≠ 2 ^ 53 := by
    rcases h with ⟨_, high, _⟩ | ⟨high, _⟩ <;> omega
  simp only [ofRatio, if_neg hn, place, rounded, if_neg hm53, dif_pos h]

end Binary64
end ShareLinks
