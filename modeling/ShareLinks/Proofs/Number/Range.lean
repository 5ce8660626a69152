import ShareLinks.Proofs.Number.HalfUnit
import ShareLinks.Proofs.Number.Nearest

/-!
# The range of 64-bit binary floating point

Integers up to `2 ^ 53` are numbers of the format. Quotients are out of range from half a unit
above the largest number on, and all below that are rounded to a finite number.
-/

namespace ShareLinks.Binary64

variable {n d : Nat}

/-- The least quotient that is out of range: half way between the largest number and the power of
two that would come next. -/
def limit : Nat :=
  (2 ^ 54 - 1) * 2 ^ 970

/-- A quotient has at most 53 bits before the place that it is rounded to, and just as many unless
that is the least place. -/
theorem atPlace_roundingPlace_bounds (hn : 0 < n) (hd : 0 < d) :
    (-1074 ≤ roundingPlace n d) ∧
      (atPlace n d (roundingPlace n d)).1 < 2 ^ 53 * (atPlace n d (roundingPlace n d)).2 ∧
      (roundingPlace n d = -1074 ∨
        2 ^ 52 * (atPlace n d (roundingPlace n d)).2 ≤ (atPlace n d (roundingPlace n d)).1) := by
  have hx : (0 : ℚ) < (n : ℚ) / d := by positivity
  have place := roundingPlace_eq hn hd
  generalize roundingPlace n d = e at place
  have hp : (0 : ℚ) < (atPlace n d e).2 := by exact_mod_cast atPlace_pos n hd e
  have power : (0 : ℚ) < 2 ^ e := by positivity
  have value := atPlace_ratio n d e
  refine ⟨by omega, ?_, ?_⟩
  · have below : (n : ℚ) / d < 2 ^ ((53 : Int) + e) := (lt_iff_log hx _).mpr (by omega)
    rw [zpow_add₀ (by norm_num), ← div_lt_iff₀ power, ← value, div_lt_iff₀ hp] at below
    exact_mod_cast below
  · by_cases least : e = -1074
    · exact .inl least
    · have above : (2 : ℚ) ^ ((52 : Int) + e) ≤ (n : ℚ) / d := (le_iff_log hx _).mpr (by omega)
      rw [zpow_add₀ (by norm_num), ← le_div_iff₀ power, ← value, le_div_iff₀ hp] at above
      exact .inr (by exact_mod_cast above)

theorem lt_of_atPlace_lt {c k : Nat} {e : Int} (place : e ≤ k)
    (h : (atPlace n d e).1 < c * (atPlace n d e).2) : n < c * 2 ^ k * d := by
  unfold atPlace at h
  split at h
  · have power : 2 ^ e.toNat ≤ 2 ^ k := Nat.pow_le_pow_right (by decide) (by omega)
    calc n < c * (d * 2 ^ e.toNat) := h
      _ ≤ c * (d * 2 ^ k) := Nat.mul_le_mul_left c (Nat.mul_le_mul_left d power)
      _ = c * 2 ^ k * d := by rw [Nat.mul_comm d, Nat.mul_assoc]
  · calc n ≤ n * 2 ^ (-e).toNat := Nat.le_mul_of_pos_right n (Nat.two_pow_pos _)
      _ < c * d := h
      _ ≤ c * 2 ^ k * d := Nat.mul_le_mul_right d (Nat.le_mul_of_pos_right c (Nat.two_pow_pos k))

theorem le_of_le_atPlace {c k : Nat} {e : Int} (place : k ≤ e)
    (h : c * (atPlace n d e).2 ≤ (atPlace n d e).1) : c * 2 ^ k * d ≤ n := by
  rw [atPlace, if_pos (by omega : 0 ≤ e)] at h
  have power : 2 ^ k ≤ 2 ^ e.toNat := Nat.pow_le_pow_right (by decide) (by omega)
  calc c * 2 ^ k * d = c * (d * 2 ^ k) := by rw [Nat.mul_comm d, Nat.mul_assoc]
    _ ≤ c * (d * 2 ^ e.toNat) := Nat.mul_le_mul_left c (Nat.mul_le_mul_left d power)
    _ ≤ n := h

/-- The limit lies between neighbouring powers of two. -/
theorem limit_bounds : 2 ^ 53 * 2 ^ 970 ≤ limit ∧ limit ≤ 2 ^ 52 * 2 ^ 972 := by
  have double : (2 : Nat) ^ 971 = 2 ^ 970 * 2 := by rw [← pow_succ]
  have quadruple : (2 : Nat) ^ 972 = 2 ^ 971 * 2 := by rw [← pow_succ]
  rw [quadruple, double, limit]
  generalize (2 : Nat) ^ 970 = p
  omega

theorem limit_pos : 0 < limit :=
  Nat.lt_of_lt_of_le (by positivity) limit_bounds.1

/-- A rounded significand, with a carry moved into its exponent, is one of the format where its
place is below the highest, and at that place where there was no carry. -/
theorem canonicalBinary_carried_iff {r : Nat} {e : Int} (least : -1074 ≤ e) (top : r ≤ 2 ^ 53)
    (bottom : e = -1074 ∨ 2 ^ 52 ≤ r) :
    CanonicalBinary (if r = 2 ^ 53 then (2 ^ 52, e + 1) else (r, e)).1
        (if r = 2 ^ 53 then (2 ^ 52, e + 1) else (r, e)).2 ↔
      e < 971 ∨ e = 971 ∧ r < 2 ^ 53 := by
  unfold CanonicalBinary
  split <;> omega

theorem atPlace_natCast (n d k : Nat) : atPlace n d k = (n, d * 2 ^ k) :=
  if_pos (Int.natCast_nonneg k)

/-- There is a carry into the 54th bit before a place from half a unit before it on. -/
theorem carry_iff (n k : Nat) (hd : 0 < d) :
    2 ^ 53 ≤ roundDiv n (d * 2 ^ (k + 1)) ↔ (2 ^ 54 - 1) * 2 ^ k * d ≤ n := by
  have reached : 2 ^ 53 - 1 + 1 ≤ roundDiv n (d * 2 ^ (k + 1)) ↔
      (2 * (2 ^ 53 - 1) + 1) * (d * 2 ^ (k + 1)) ≤ 2 * n :=
    succ_le_roundDiv_iff (Nat.mul_pos hd (Nat.two_pow_pos (k + 1))) (by norm_num)
  have scaled : (2 * (2 ^ 53 - 1) + 1) * (d * 2 ^ (k + 1)) = 2 * ((2 ^ 54 - 1) * 2 ^ k * d) := by
    have double : 2 * (2 ^ 53 - 1) + 1 = 2 ^ 54 - 1 := by norm_num
    rw [double, pow_succ 2 k, ← Nat.mul_assoc d, Nat.mul_comm d, ← Nat.mul_assoc, ← Nat.mul_assoc,
      Nat.mul_comm _ 2]
  have carried : 2 ^ 53 - 1 + 1 = 2 ^ 53 := by norm_num
  rw [scaled, carried] at reached
  rw [reached]
  exact Nat.mul_le_mul_left_iff (by decide)

/-- Quotients from the limit on are rounded to infinity, and no others. -/
theorem ofRatio_eq_infinity_iff (negative : Bool) (n : Nat) (hd : 0 < d) :
    ofRatio negative n d = .infinity negative ↔ limit * d ≤ n := by
  obtain ⟨low, high⟩ := limit_bounds
  by_cases hn : n = 0
  · have positive : 0 < limit * d := Nat.mul_pos limit_pos hd
    rw [ofRatio, if_pos hn, zero]
    exact iff_of_false (fun h => by cases h) (by omega)
  obtain ⟨least, below, above⟩ := atPlace_roundingPlace_bounds (Nat.pos_of_ne_zero hn) hd
  have hp := atPlace_pos n hd (roundingPlace n d)
  have canonical := canonicalBinary_carried_iff least (roundDiv_le hp below.le)
    (above.imp_right (le_roundDiv hp))
  have infinite : ofRatio negative n d = .infinity negative ↔
      ¬ (roundingPlace n d < 971 ∨ roundingPlace n d = 971 ∧
        roundDiv (atPlace n d (roundingPlace n d)).1 (atPlace n d (roundingPlace n d)).2 <
          2 ^ 53) := by
    rw [← canonical, ofRatio, if_neg hn]
    dsimp only
    split <;> simp
  rw [infinite]
  rcases lt_trichotomy (roundingPlace n d) 971 with lower | highest | higher
  · have small : n < 2 ^ 53 * 2 ^ 970 * d := lt_of_atPlace_lt (k := 970) (by omega) below
    have := Nat.mul_le_mul_right d low
    exact iff_of_false (fun h => h (.inl lower)) (by omega)
  · have place : atPlace n d 971 = (n, d * 2 ^ (970 + 1)) := atPlace_natCast n d (970 + 1)
    have carry := carry_iff n 970 hd
    rw [highest, place, limit, ← carry]
    simp only [lt_self_iff_false, false_or, true_and, not_lt]
  · have large : 2 ^ 52 * 2 ^ 972 * d ≤ n :=
      le_of_le_atPlace (k := 972) (by omega) (above.resolve_left (by omega))
    have := Nat.mul_le_mul_right d high
    exact iff_of_true (fun h => by omega) (by omega)

/-- A quotient is rounded to a number with its own sign, finite or not. -/
theorem ofRatio_cases (negative : Bool) (n d : Nat) :
    (∃ m e canonical, ofRatio negative n d = .finite negative m e canonical) ∨
      ofRatio negative n d = .infinity negative := by
  unfold ofRatio
  split
  · exact .inl ⟨0, -1074, by decide, rfl⟩
  · dsimp only
    generalize (if roundDiv _ _ = 2 ^ 53 then _ else _ : Nat × Int) = carried
    split
    · next canonical => exact .inl ⟨_, _, canonical, rfl⟩
    · exact .inr rfl

/-- There is no number nearest to a quotient where its magnitude is out of range. -/
theorem ofQuotient?_eq_none_iff (n : Int) (hd : 0 < d) :
    ofQuotient? n d = none ↔ limit * d ≤ n.natAbs := by
  rw [← ofRatio_eq_infinity_iff (n < 0) n.natAbs hd, ofQuotient?]
  rcases ofRatio_cases (n < 0) n.natAbs d with ⟨m, e, canonical, finite⟩ | infinite
  · simp [finite]
  · simp [infinite]

/-- The number nearest to a quotient is finite, so its fraction can be dropped. -/
theorem exists_truncate?_of_ofQuotient? {n : Int} {x : Binary64} (h : ofQuotient? n d = some x) :
    ∃ k, x.truncate? = some k := by
  rw [ofQuotient?] at h
  rcases ofRatio_cases (n < 0) n.natAbs d with ⟨m, e, canonical, finite⟩ | infinite
  · rw [finite] at h
    cases h
    exact ⟨_, rfl⟩
  · rw [infinite] at h
    cases h

theorem natAbs_lt_of_truncate? {x : Binary64} {k : Int} (h : x.truncate? = some k) :
    k.natAbs < 2 ^ 1024 := by
  cases x with
  | nan => cases h
  | infinity => cases h
  | finite negative m e canonical =>
    have significand : m < 2 ^ 53 := by
      rcases canonical with normal | short
      · exact normal.2.1
      · exact short.1.trans (by decide)
    have exponent : e ≤ 971 := by
      rcases canonical with normal | short
      · exact normal.2.2.2
      · omega
    have quotient : k.natAbs = (magnitude m e).1 / (magnitude m e).2 := by
      rw [← Option.some.inj (show some _ = some k from h)]
      cases negative with
      | false => exact Int.natAbs_natCast _
      | true => exact (Int.natAbs_neg _).trans (Int.natAbs_natCast _)
    obtain ⟨j, places⟩ : ∃ j, 1024 = 53 + j := ⟨971, rfl⟩
    rw [quotient, places, pow_add]
    refine (Nat.div_le_self _ _).trans_lt ?_
    unfold magnitude
    split
    · next whole =>
      calc m * 2 ^ e.toNat ≤ m * 2 ^ j :=
            Nat.mul_le_mul_left m (Nat.pow_le_pow_right (by decide) (by omega))
        _ < 2 ^ 53 * 2 ^ j := Nat.mul_lt_mul_of_pos_right significand (Nat.two_pow_pos j)
    · exact significand.trans_le (Nat.le_mul_of_pos_right _ (Nat.two_pow_pos j))

/-- Positive integers below `2 ^ 53` are filled up with binary places, and that power itself is
one of two. -/
theorem exists_canonical_of_le {n : Nat} (positive : 0 < n) (h : n ≤ 2 ^ 53) :
    ∃ (m : Nat) (e : Int), m ≠ 0 ∧ CanonicalBinary m e ∧ (n : ℚ) = m * 2 ^ e := by
  rcases h.lt_or_eq with below | rfl
  · have low := Nat.log2_self_le positive.ne'
    have high : n < 2 ^ (Nat.log2 n + 1) := Nat.lt_log2_self
    have places : Nat.log2 n < 53 := (Nat.log2_lt positive.ne').mpr below
    obtain ⟨k, split⟩ : ∃ k, Nat.log2 n + k = 52 := ⟨52 - Nat.log2 n, by omega⟩
    refine ⟨n * 2 ^ k, -k, by positivity, .inl ⟨?_, ?_, by omega, by omega⟩, ?_⟩
    · calc 2 ^ 52 = 2 ^ Nat.log2 n * 2 ^ k := by rw [← pow_add, split]
        _ ≤ n * 2 ^ k := Nat.mul_le_mul_right _ low
    · calc n * 2 ^ k < 2 ^ (Nat.log2 n + 1) * 2 ^ k :=
            Nat.mul_lt_mul_of_pos_right high (Nat.two_pow_pos k)
        _ = 2 ^ 53 := by rw [← pow_add, Nat.add_right_comm, split]
    · rw [zpow_neg, zpow_natCast]
      push_cast
      field_simp
  · exact ⟨2 ^ 52, 1, by norm_num, .inl (by norm_num), by norm_num⟩

theorem ofInt?_natCast {n : Nat} (h : n ≤ 2 ^ 53) :
    ∃ (m : Nat) (e : Int) (canonical : CanonicalBinary m e),
      ofInt? n = some (.finite false m e canonical) ∧ (n : ℚ) = m * 2 ^ e := by
  rcases Nat.eq_zero_or_pos n with rfl | positive
  · exact ⟨0, -1074, by decide, rfl, by norm_num⟩
  · obtain ⟨m, e, nonzero, canonical, value⟩ := exists_canonical_of_le positive h
    refine ⟨m, e, canonical, ?_, value⟩
    have rounded : ofRatio false n 1 = .finite false m e canonical :=
      ofRatio_canonical false nonzero canonical Nat.one_pos (by rw [Nat.cast_one, div_one, value])
    have sign : decide ((n : Int) < 0) = false := by simp
    rw [ofInt?, ofQuotient?, sign, Int.natAbs_natCast, rounded]

theorem magnitude_of_value {m n : Nat} {e : Int} (value : (n : ℚ) = m * 2 ^ e) :
    0 < (magnitude m e).2 ∧ (magnitude m e).1 = n * (magnitude m e).2 := by
  unfold magnitude
  split
  · next he =>
    obtain ⟨k, rfl⟩ : ∃ k : Nat, e = k := ⟨e.toNat, by omega⟩
    rw [zpow_natCast] at value
    exact ⟨Nat.one_pos, by rw [Int.toNat_natCast, Nat.mul_one]; exact_mod_cast value.symm⟩
  · next he =>
    obtain ⟨k, rfl⟩ : ∃ k : Nat, e = -k := ⟨(-e).toNat, by omega⟩
    rw [zpow_neg, zpow_natCast, ← div_eq_mul_inv, eq_div_iff (by positivity)] at value
    rw [neg_neg, Int.toNat_natCast]
    exact ⟨Nat.two_pow_pos k, by exact_mod_cast value.symm⟩

end ShareLinks.Binary64
