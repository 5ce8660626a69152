import Mathlib.Tactic.Ring
import ShareLinks.Number.Decimal
import ShareLinks.Proofs.Number.Nearest

/-!
# Shortest decimals of binary numbers

A decimal is read by its value alone: zeros at the end of its digits may be moved into its
exponent. The decimal that is chosen for a number reads back to that number, since either the
reader was asked before it was chosen or it is the number exactly.
-/

namespace ShareLinks

theorem digitsValue_decimalDigits (n : Nat) : digitsValue (decimalDigits n) = n :=
  Nat.ofDigitChars_ten_toDigits

theorem decimalDigits_ne_nil (n : Nat) : decimalDigits n ≠ [] := Nat.toDigits_ne_nil

theorem isDigit_of_mem_decimalDigits {n : Nat} {c : Char} (h : c ∈ decimalDigits n) :
    c.isDigit = true :=
  Nat.isDigit_of_mem_toDigits (by decide) (by decide) h

theorem decimalDigits_mul_ten {n : Nat} (hn : n ≠ 0) :
    decimalDigits (n * 10) = decimalDigits n ++ ['0'] := by
  have h := Nat.toDigits_append_toDigits (b := 10) (d := 0) (by decide) (Nat.pos_of_ne_zero hn)
    (by decide)
  rw [Nat.add_zero, Nat.mul_comm] at h
  exact h.symm

theorem decimalDigits_mul_pow {n : Nat} (hn : n ≠ 0) (k : Nat) :
    decimalDigits (n * 10 ^ k) = decimalDigits n ++ List.replicate k '0' := by
  induction k with
  | zero => simp
  | succ k ih =>
    have nonzero : n * 10 ^ k ≠ 0 := Nat.mul_ne_zero hn (by positivity)
    rw [Nat.pow_succ, ← Nat.mul_assoc, decimalDigits_mul_ten nonzero, ih, List.append_assoc,
      List.replicate_succ']

/-- A number has as many digits as the powers of ten say that it reaches. -/
theorem length_decimalDigits_bounds {n : Nat} (hn : n ≠ 0) :
    10 ^ ((decimalDigits n).length - 1) ≤ n ∧ n < 10 ^ (decimalDigits n).length := by
  have pos : 0 < (decimalDigits n).length := Nat.length_toDigits_pos
  constructor
  · by_cases one : (decimalDigits n).length = 1
    · rw [one]; exact Nat.pos_of_ne_zero hn
    · have short := Nat.length_toDigits_le_iff (b := 10) (n := n) (by decide)
        (show 0 < (decimalDigits n).length - 1 by omega)
      have : ¬ (decimalDigits n).length ≤ (decimalDigits n).length - 1 := by omega
      exact Nat.le_of_not_lt (mt short.mpr this)
  · exact (Nat.length_toDigits_le_iff (by decide) pos).mp (Nat.le_refl _)

/-- The same number with the given sign. -/
def Binary64.withSign (negative : Bool) : Binary64 → Binary64
  | .nan => .nan
  | .infinity _ => .infinity negative
  | .finite _ m e h => .finite negative m e h

theorem Binary64.ofRatio_eq_withSign (negative : Bool) (n d : Nat) :
    ofRatio negative n d = (ofRatio false n d).withSign negative := by
  simp only [ofRatio]
  split
  · rfl
  · split
    · split <;> rfl
    · split <;> rfl

namespace Decimal

theorem ratio_pos (d : Decimal) : 0 < d.ratio.2 := by
  unfold ratio
  split
  · exact Nat.one_pos
  · exact Nat.pow_pos (by decide)

theorem ratio_value (d : Decimal) :
    (d.ratio.1 : ℚ) / d.ratio.2 = d.digits * 10 ^ d.exponent := by
  unfold ratio
  split
  · next he =>
    have power : (10 : ℚ) ^ d.exponent = 10 ^ d.exponent.toNat := by
      rw [← zpow_natCast, Int.toNat_of_nonneg he]
    push_cast
    rw [power, div_one]
  · next he =>
    have power : (10 : ℚ) ^ d.exponent = (10 ^ (-d.exponent).toNat)⁻¹ := by
      rw [← zpow_natCast, Int.toNat_of_nonneg (by omega), ← zpow_neg, neg_neg]
    push_cast
    rw [power, div_eq_mul_inv]

/-- The place behind the leading digit. -/
def places (d : Decimal) : Int := (decimalDigits d.digits).length + d.exponent

theorem places_bounds (d : Decimal) (hd : d.digits ≠ 0) :
    (10 : ℚ) ^ (d.places - 1) ≤ d.digits * 10 ^ d.exponent ∧
      (d.digits : ℚ) * 10 ^ d.exponent < 10 ^ d.places := by
  obtain ⟨low, high⟩ := length_decimalDigits_bounds hd
  have pos : 0 < (decimalDigits d.digits).length := Nat.length_toDigits_pos
  have low' : (10 : ℚ) ^ ((decimalDigits d.digits).length - 1) ≤ d.digits := by exact_mod_cast low
  have high' : (d.digits : ℚ) < 10 ^ (decimalDigits d.digits).length := by exact_mod_cast high
  have split : d.places - 1 = ((decimalDigits d.digits).length - 1 : Nat) + d.exponent := by
    unfold places; omega
  constructor
  · rw [split, zpow_add₀ (by norm_num), zpow_natCast]
    exact mul_le_mul_of_nonneg_right low' (by positivity)
  · rw [places, zpow_add₀ (by norm_num), zpow_natCast]
    exact mul_lt_mul_of_pos_right high' (by positivity)

theorem toBinary64_eq_withSign (negative : Bool) (d : Decimal) :
    d.toBinary64 negative = (d.toBinary64 false).withSign negative := by
  simp only [toBinary64]
  split
  · rfl
  · split
    · rfl
    · split
      · rfl
      · exact Binary64.ofRatio_eq_withSign negative _ _

/-- The same value with `k` more zeros at the end of the digits. -/
def padded (k : Nat) (d : Decimal) : Decimal := ⟨d.digits * 10 ^ k, d.exponent - k⟩

theorem toBinary64_padded (negative : Bool) (k : Nat) {d : Decimal} (hd : d.digits ≠ 0) :
    (d.padded k).toBinary64 negative = d.toBinary64 negative := by
  have nonzero : (d.padded k).digits ≠ 0 := Nat.mul_ne_zero hd (by positivity)
  have same : (d.padded k).places = d.places := by
    simp only [places, padded, decimalDigits_mul_pow hd, List.length_append, List.length_replicate]
    push_cast
    omega
  have value : ((d.padded k).ratio.1 : ℚ) / (d.padded k).ratio.2 =
      (d.ratio.1 : ℚ) / d.ratio.2 := by
    rw [ratio_value, ratio_value, padded]
    push_cast
    rw [zpow_sub₀ (by norm_num), zpow_natCast]
    field_simp
  have crossed : (d.padded k).ratio.1 * d.ratio.2 = d.ratio.1 * (d.padded k).ratio.2 := by
    have p := (d.padded k).ratio_pos
    have q := d.ratio_pos
    rw [div_eq_div_iff (by positivity) (by positivity)] at value
    exact_mod_cast value
  unfold places at same
  simp only [toBinary64, if_neg hd, if_neg nonzero, same]
  split
  · rfl
  · split
    · rfl
    · exact Binary64.ofRatio_congr negative (ratio_pos _) (ratio_pos _) crossed

theorem exists_padded_trimmed (fuel : Nat) (d : Decimal) :
    ∃ k, d = (d.trimmed fuel).padded k := by
  induction fuel generalizing d with
  | zero => exact ⟨0, by simp [trimmed, padded]⟩
  | succ fuel ih =>
    unfold trimmed
    split
    · next h =>
      obtain ⟨k, hk⟩ := ih ⟨d.digits / 10, d.exponent + 1⟩
      refine ⟨k + 1, ?_⟩
      generalize trimmed fuel ⟨d.digits / 10, d.exponent + 1⟩ = t at hk
      simp only [padded, mk.injEq] at hk
      obtain ⟨digits, exponent⟩ := d
      simp only [padded, mk.injEq, Nat.pow_succ, ← Nat.mul_assoc, ← hk.1]
      have := h.2
      constructor
      · simp only at this ⊢; omega
      · have := hk.2; simp only at this; push_cast; omega
    · exact ⟨0, by simp [padded]⟩

theorem toBinary64_trimmed (negative : Bool) (fuel : Nat) {d : Decimal} (hd : d.digits ≠ 0) :
    (d.trimmed fuel).toBinary64 negative = d.toBinary64 negative := by
  obtain ⟨k, hk⟩ := exists_padded_trimmed fuel d
  have nonzero : (d.trimmed fuel).digits ≠ 0 := by
    intro zero
    rw [hk] at hd
    exact hd (by simp [padded, zero])
  conv => rhs; rw [hk]
  exact (toBinary64_padded negative k nonzero).symm

/-- A decimal whose value is a number of the format is read as that number. -/
theorem toBinary64_of_value (negative : Bool) {m : Nat} {e : Int} (hm : m ≠ 0)
    (h : CanonicalBinary m e) {d : Decimal} (value : (d.digits : ℚ) * 10 ^ d.exponent = m * 2 ^ e) :
    d.toBinary64 negative = .finite negative m e h := by
  have hm' : (1 : ℚ) ≤ m := by exact_mod_cast Nat.pos_of_ne_zero hm
  have bounds : m < 2 ^ 53 ∧ -1074 ≤ e ∧ e ≤ 971 := by
    rcases h with ⟨_, high, least, most⟩ | ⟨high, least⟩ <;> omega
  have top : 2 ^ 53 * 2 ^ 971 < 10 ^ 310 := by decide +kernel
  have bottom : 2 ^ 1074 < 10 ^ 325 := by decide +kernel
  have large : (m : ℚ) * 2 ^ e < 10 ^ (310 : Int) := by
    have m53 : (m : ℚ) < 2 ^ 53 := by exact_mod_cast bounds.1
    calc (m : ℚ) * 2 ^ e < 2 ^ 53 * 2 ^ e := mul_lt_mul_of_pos_right m53 (by positivity)
      _ ≤ 2 ^ 53 * 2 ^ (971 : Int) :=
          mul_le_mul_of_nonneg_left (zpow_le_zpow_right₀ (by norm_num) bounds.2.2) (by positivity)
      _ < 10 ^ (310 : Int) := by exact_mod_cast top
  have small : (10 : ℚ) ^ (-325 : Int) < m * 2 ^ e := by
    calc (10 : ℚ) ^ (-325 : Int) < 1 * 2 ^ (-1074 : Int) := by
          rw [one_mul, zpow_neg, zpow_neg]
          exact inv_strictAnti₀ (by positivity) (by exact_mod_cast bottom)
      _ ≤ m * 2 ^ e := mul_le_mul hm' (zpow_le_zpow_right₀ (by norm_num) bounds.2.1)
          (by positivity) (by positivity)
  have hd : d.digits ≠ 0 := by
    intro zero
    rw [zero, Nat.cast_zero, zero_mul] at value
    rw [← value] at small
    exact absurd small (by norm_num)
  obtain ⟨low, high⟩ := places_bounds d hd
  rw [value] at low high
  have notLarge : d.places - 1 < 310 :=
    (zpow_lt_zpow_iff_right₀ (by norm_num : (1 : ℚ) < 10)).mp (low.trans_lt large)
  have notSmall : -325 < d.places :=
    (zpow_lt_zpow_iff_right₀ (by norm_num : (1 : ℚ) < 10)).mp (small.trans high)
  unfold places at notLarge notSmall
  simp only [toBinary64, if_neg hd]
  rw [if_neg (by omega), if_neg (by omega)]
  exact Binary64.ofRatio_canonical negative hm h (ratio_pos d) ((ratio_value d).trans value)

theorem ofBinary_value (m : Nat) (e : Int) :
    ((ofBinary m e).digits : ℚ) * 10 ^ (ofBinary m e).exponent = m * 2 ^ e := by
  unfold ofBinary
  split
  · next he =>
    have power : (2 : ℚ) ^ e = 2 ^ e.toNat := by
      rw [← zpow_natCast, Int.toNat_of_nonneg he]
    rw [power]
    simp
  · next he =>
    obtain ⟨k, rfl⟩ : ∃ k : Nat, e = -k := ⟨(-e).toNat, by omega⟩
    simp only [neg_neg, Int.toNat_natCast]
    push_cast
    rw [show (10 : ℚ) = 2 * 5 by norm_num, mul_zpow, zpow_neg 5, zpow_natCast 5]
    field_simp

theorem toBinary64_shortest (negative : Bool) {m : Nat} {e : Int} (hm : m ≠ 0)
    (h : CanonicalBinary m e) : (shortest m e h).toBinary64 negative = .finite negative m e h := by
  have reads : ∀ d : Decimal, d.toBinary64 false = .finite false m e h →
      (d.trimmed (decimalDigits d.digits).length).toBinary64 negative = .finite negative m e h := by
    intro d hd
    have nonzero : d.digits ≠ 0 := by
      intro zero
      rw [toBinary64, if_pos zero] at hd
      injection hd with _ significand _
      exact hm significand.symm
    rw [toBinary64_trimmed negative _ nonzero, toBinary64_eq_withSign, hd, Binary64.withSign]
  simp only [shortest]
  cases found : (candidates m e).find? fun d => d.toBinary64 false = .finite false m e h with
  | none => exact reads _ (toBinary64_of_value false hm h (ofBinary_value m e))
  | some d => exact reads d (by simpa using List.find?_some found)

theorem shortest_digits_ne_zero {m : Nat} {e : Int} (hm : m ≠ 0) (h : CanonicalBinary m e) :
    (shortest m e h).digits ≠ 0 := by
  intro zero
  have reads := toBinary64_shortest false hm h
  rw [toBinary64, if_pos zero] at reads
  injection reads with _ significand _
  exact hm significand.symm

end Decimal
end ShareLinks
