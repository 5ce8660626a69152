import Mathlib.Algebra.Order.Floor.Semifield
import Mathlib.Data.Rat.Floor
import ShareLinks.Proofs.Number.Range

/-!
# Rounded quotients

A quotient is rounded to the number of the format that is nearest to it. Rounding never carries it
to the next integer where half a unit in the last place is less than what a fraction with its
denominator can be below an integer, so dropping the fraction afterwards gives the integer quotient.
A product is finite just where its value is below the limit of the format.
-/

namespace ShareLinks

/-- No integer is nearer to a quotient than its nearest integer, and only an even one has another
that is just as near. -/
theorem IsNearest.le_abs_sub {n d r : Nat} (hd : 0 < d) (h : IsNearest n d r) (k : Int) :
    |(r : ℚ) - n / d| ≤ |(k : ℚ) - n / d| ∧
      (|(r : ℚ) - n / d| = |(k : ℚ) - n / d| → (k : ℚ) = r ∨ r % 2 = 0) := by
  have positive : (0 : ℚ) < d := by exact_mod_cast hd
  have above : (2 * (r * d) : ℚ) ≤ 2 * n + d := by exact_mod_cast h.above
  have below : (2 * n : ℚ) ≤ 2 * (r * d) + d := by exact_mod_cast h.below
  have scaled : ((r : ℚ) - n / d) * d = r * d - n := by
    field_simp
  have half : |(r : ℚ) - n / d| ≤ 1 / 2 := by
    rw [abs_le]
    constructor <;> nlinarith
  have tie : |(r : ℚ) - n / d| = 1 / 2 → r % 2 = 0 := by
    intro off
    apply h.even
    rcases (abs_eq (by norm_num)).mp off with up | down
    · rw [up] at scaled
      exact .inl (by exact_mod_cast (by linarith : (2 * (r * d) : ℚ) = 2 * n + d))
    · rw [down] at scaled
      exact .inr (by exact_mod_cast (by linarith : (2 * n : ℚ) = 2 * (r * d) + d))
  by_cases same : k = r
  · subst same
    exact ⟨le_rfl, fun _ => .inl rfl⟩
  · have apart : (1 : ℚ) ≤ |(k : ℚ) - r| := by
      exact_mod_cast Int.one_le_abs (sub_ne_zero.mpr same)
    have triangle := abs_sub_le (k : ℚ) (n / d) r
    rw [abs_sub_comm ((n : ℚ) / d)] at triangle
    exact ⟨by linarith, fun equal => .inr (tie (by linarith))⟩

namespace Binary64

/-- A magnitude with a sign. -/
def applySign (negative : Bool) (v : ℚ) : ℚ :=
  if negative then -v else v

/-- The value of a significand at a place, with a sign. -/
def signed (negative : Bool) (m : Nat) (e : Int) : ℚ :=
  applySign negative (m * 2 ^ e)

/-- The value of a finite number. -/
def value? : Binary64 → Option ℚ
  | .finite negative m e _ => some (signed negative m e)
  | _ => none

/-- The significand of a finite number. -/
def significand : Binary64 → Nat
  | .finite _ m _ _ => m
  | _ => 0

/-- A rational is rounded to a number, with the given value: no number is nearer to it, and where
another one is just as near the significand is even. -/
structure IsRounded (q : ℚ) (x : Binary64) (value : ℚ) : Prop where
  value_eq : x.value? = some value
  nearest : ∀ y v, value? y = some v → |value - q| ≤ |v - q|
  even : ∀ y v, value? y = some v → |value - q| = |v - q| → v = value ∨ x.significand % 2 = 0

variable {n d : Nat}

theorem two_pow_le_limit : 2 ^ 53 ≤ limit :=
  (Nat.le_mul_of_pos_right _ (by positivity)).trans limit_bounds.1

/-- The nearest integer to a quotient at the place that it is rounded to. -/
def rounded (n d : Nat) : Nat :=
  roundDiv (atPlace n d (roundingPlace n d)).1 (atPlace n d (roundingPlace n d)).2

/-- A significand with a carry into the next bit moved into its exponent. -/
def carried (r : Nat) (e : Int) : Nat × Int :=
  if r = 2 ^ 53 then (2 ^ 52, e + 1) else (r, e)

theorem carried_value (r : Nat) (e : Int) :
    ((carried r e).1 : ℚ) * 2 ^ (carried r e).2 = r * 2 ^ e := by
  unfold carried
  split
  · next carry =>
    rw [carry, zpow_add₀ (by norm_num)]
    push_cast
    ring
  · rfl

theorem carried_even {r : Nat} (even : r % 2 = 0) (e : Int) : (carried r e).1 % 2 = 0 := by
  unfold carried
  split
  · norm_num
  · exact even

/-- A quotient in range is rounded to the nearest integer at its place. -/
theorem ofRatio_eq_finite (negative : Bool) (hn : 0 < n) (hd : 0 < d) (small : n < limit * d) :
    ∃ canonical, ofRatio negative n d =
      .finite negative (carried (rounded n d) (roundingPlace n d)).1
        (carried (rounded n d) (roundingPlace n d)).2 canonical := by
  have split : ofRatio negative n d =
      if h : CanonicalBinary (carried (rounded n d) (roundingPlace n d)).1
          (carried (rounded n d) (roundingPlace n d)).2 then .finite negative _ _ h
      else .infinity negative := by
    rw [ofRatio, if_neg hn.ne']
    rfl
  by_cases canonical : CanonicalBinary (carried (rounded n d) (roundingPlace n d)).1
      (carried (rounded n d) (roundingPlace n d)).2
  · exact ⟨canonical, by rw [split, dif_pos canonical]⟩
  · rw [dif_neg canonical, ofRatio_eq_infinity_iff negative n hd] at split
    exact absurd split (not_le.mpr small)

/-- No multiple of the unit at the place of rounding is nearer to a quotient than what it is rounded
to, and only an even multiple has another that is just as near. -/
theorem le_abs_multiple_sub (n : Nat) (hd : 0 < d) (k : Int) :
    |(rounded n d : ℚ) * 2 ^ roundingPlace n d - n / d| ≤
        |(k : ℚ) * 2 ^ roundingPlace n d - n / d| ∧
      (|(rounded n d : ℚ) * 2 ^ roundingPlace n d - n / d| =
          |(k : ℚ) * 2 ^ roundingPlace n d - n / d| →
        (k : ℚ) = rounded n d ∨ rounded n d % 2 = 0) := by
  have hp := atPlace_pos n hd (roundingPlace n d)
  have near := (isNearest_roundDiv (atPlace n d (roundingPlace n d)).1 hp).le_abs_sub hp k
  have unit : (0 : ℚ) < 2 ^ roundingPlace n d := by positivity
  have scaled (c : ℚ) : |c * 2 ^ roundingPlace n d - n / d| =
      |c - (n : ℚ) / d / 2 ^ roundingPlace n d| * 2 ^ roundingPlace n d := by
    rw [← abs_of_pos unit, ← abs_mul, abs_of_pos unit, sub_mul, div_mul_cancel₀ _ unit.ne']
  rw [atPlace_ratio] at near
  rw [scaled, scaled]
  refine ⟨mul_le_mul_of_nonneg_right near.1 unit.le, fun equal => near.2 ?_⟩
  exact mul_right_cancel₀ unit.ne' equal

theorem signed_le (negative : Bool) (m : Nat) (e : Int) : signed negative m e ≤ m * 2 ^ e := by
  have positive : (0 : ℚ) ≤ m * 2 ^ e := by positivity
  unfold signed applySign
  split <;> linarith

/-- Numbers at a higher place are multiples of the unit at a lower one. -/
theorem exists_signed_eq (negative : Bool) (m : Nat) {e e' : Int} (h : e ≤ e') :
    ∃ k : Int, signed negative m e' = k * 2 ^ e := by
  obtain ⟨j, rfl⟩ : ∃ j : Nat, e' = j + e := ⟨(e' - e).toNat, by omega⟩
  have value : (m : ℚ) * 2 ^ ((j : Int) + e) = (m * 2 ^ j : Nat) * 2 ^ e := by
    rw [zpow_add₀ (by norm_num), zpow_natCast]
    push_cast
    ring
  unfold signed applySign
  split
  · exact ⟨-(m * 2 ^ j : Nat), by rw [value]; push_cast; ring⟩
  · exact ⟨(m * 2 ^ j : Nat), by rw [value]; push_cast; ring⟩

/-- Numbers below the place of rounding are below the quotient, by more than the least number with
53 bits at that place. -/
theorem signed_lt_of_place_lt (hn : 0 < n) (hd : 0 < d) (negative : Bool) {m : Nat} {e : Int}
    (canonical : CanonicalBinary m e) (lower : e < roundingPlace n d) :
    signed negative m e < 2 ^ 52 * 2 ^ roundingPlace n d ∧
      2 ^ 52 * 2 ^ roundingPlace n d ≤ (n : ℚ) / d := by
  obtain ⟨-, -, above⟩ := atPlace_roundingPlace_bounds hn hd
  have hp : (0 : ℚ) < (atPlace n d (roundingPlace n d)).2 := by
    exact_mod_cast atPlace_pos n hd (roundingPlace n d)
  have least : -1074 ≤ e ∧ m < 2 ^ 53 := by
    rcases canonical with ⟨-, bits, least, -⟩ | ⟨bits, least⟩ <;> omega
  constructor
  · have bits : (m : ℚ) < 2 ^ 53 := by exact_mod_cast least.2
    calc signed negative m e ≤ m * 2 ^ e := signed_le negative m e
      _ < 2 ^ 53 * 2 ^ e := mul_lt_mul_of_pos_right bits (by positivity)
      _ = 2 ^ 52 * 2 ^ (1 + e) := by rw [zpow_add₀ (by norm_num)]; ring
      _ ≤ 2 ^ 52 * 2 ^ roundingPlace n d :=
          mul_le_mul_of_nonneg_left (zpow_le_zpow_right₀ (by norm_num) (by omega)) (by positivity)
  · have full : ((2 ^ 52 * (atPlace n d (roundingPlace n d)).2 : Nat) : ℚ) ≤
        (atPlace n d (roundingPlace n d)).1 := by
      exact_mod_cast above.resolve_left (by omega)
    push_cast at full
    rw [← le_div_iff₀ hp, atPlace_ratio, le_div_iff₀ (by positivity)] at full
    exact full

/-- No number is nearer to a quotient than what it is rounded to, and where another one is just as
near the nearest integer at the place is even. -/
theorem le_abs_signed_sub (hn : 0 < n) (hd : 0 < d) (negative : Bool) {m : Nat} {e : Int}
    (canonical : CanonicalBinary m e) :
    |(rounded n d : ℚ) * 2 ^ roundingPlace n d - n / d| ≤ |signed negative m e - n / d| ∧
      (|(rounded n d : ℚ) * 2 ^ roundingPlace n d - n / d| = |signed negative m e - n / d| →
        signed negative m e = rounded n d * 2 ^ roundingPlace n d ∨ rounded n d % 2 = 0) := by
  by_cases lower : e < roundingPlace n d
  · obtain ⟨below, full⟩ := signed_lt_of_place_lt hn hd negative canonical lower
    have near := (le_abs_multiple_sub n hd (2 ^ 52)).1
    have power : ((2 ^ 52 : Int) : ℚ) = 2 ^ 52 := by norm_num
    rw [power,
      abs_of_nonpos (by linarith : (2 : ℚ) ^ 52 * 2 ^ roundingPlace n d - n / d ≤ 0)] at near
    have off : |signed negative m e - n / d| = n / d - signed negative m e := by
      rw [abs_of_nonpos (by linarith), neg_sub]
    rw [off]
    exact ⟨by linarith, fun equal => absurd equal (by linarith)⟩
  · obtain ⟨k, multiple⟩ := exists_signed_eq negative m (not_lt.mp lower)
    rw [multiple]
    obtain ⟨near, tie⟩ := le_abs_multiple_sub n hd k
    refine ⟨near, fun equal => (tie equal).imp_left fun same => by rw [same]⟩

theorem applySign_applySign (negative : Bool) (v : ℚ) :
    applySign negative (applySign negative v) = v := by
  cases negative
  · rfl
  · exact neg_neg v

theorem applySign_signed (negative other : Bool) (m : Nat) (e : Int) :
    applySign negative (signed other m e) = signed (negative ^^ other) m e := by
  cases negative
  · cases other <;> rfl
  · cases other
    · rfl
    · exact neg_neg _

/-- Distances are the same when both sides change their sign. -/
theorem abs_sub_applySign (negative : Bool) (v q : ℚ) :
    |v - applySign negative q| = |applySign negative v - q| := by
  cases negative
  · rfl
  · show |v - -q| = |-v - q|
    rw [← abs_neg]
    congr 1
    ring

/-- A quotient in range is rounded to a number that is nearest to it, with its sign. -/
theorem isRounded_ofRatio (negative : Bool) (hn : 0 < n) (hd : 0 < d) (small : n < limit * d) :
    IsRounded (applySign negative (n / d)) (ofRatio negative n d)
      (applySign negative (rounded n d * 2 ^ roundingPlace n d)) := by
  obtain ⟨canonical, finite⟩ := ofRatio_eq_finite negative hn hd small
  have own : |applySign negative (rounded n d * 2 ^ roundingPlace n d) -
      applySign negative (n / d)| = |(rounded n d : ℚ) * 2 ^ roundingPlace n d - n / d| := by
    rw [abs_sub_applySign, applySign_applySign]
  refine ⟨by rw [finite, value?, signed, carried_value], ?_, ?_⟩
  · intro y v hv
    cases y with
    | nan => cases hv
    | infinity other => cases hv
    | finite other m e hm =>
      obtain rfl := Option.some.inj hv
      rw [own, abs_sub_applySign, applySign_signed]
      exact (le_abs_signed_sub hn hd _ hm).1
  · intro y v hv equal
    cases y with
    | nan => cases hv
    | infinity other => cases hv
    | finite other m e hm =>
      obtain rfl := Option.some.inj hv
      rw [own, abs_sub_applySign, applySign_signed] at equal
      rcases (le_abs_signed_sub hn hd _ hm).2 equal with same | even
      · rw [← applySign_signed] at same
        exact .inl (by rw [← same, applySign_applySign])
      · exact .inr (by rw [finite]; exact carried_even even _)

theorem isRounded_zero (negative : Bool) : IsRounded 0 (zero negative) 0 where
  value_eq := by cases negative <;> norm_num [zero, value?, signed, applySign]
  nearest _ v _ := by rw [sub_zero, abs_zero]; exact abs_nonneg _
  even _ _ _ _ := .inr rfl

theorem intCast_div_eq (n : Int) (d : Nat) :
    (n : ℚ) / d = applySign (n < 0) (n.natAbs / d) := by
  have magnitude : (n.natAbs : ℚ) = |(n : ℚ)| := by rw [Nat.cast_natAbs, Int.cast_abs]
  rw [applySign, magnitude]
  by_cases negative : n < 0
  · have negative' : (n : ℚ) < 0 := by exact_mod_cast negative
    rw [if_pos (decide_eq_true negative), abs_of_neg negative', neg_div, neg_neg]
  · have positive : (0 : ℚ) ≤ n := by exact_mod_cast not_lt.mp negative
    rw [if_neg (by simpa using negative), abs_of_nonneg positive]

theorem ofQuotient?_eq_some (n : Int) (hd : 0 < d) (small : n.natAbs < limit * d) :
    ofQuotient? n d = some (ofRatio (n < 0) n.natAbs d) := by
  have inRange := mt (ofQuotient?_eq_none_iff n hd).mp (not_le.mpr small)
  rw [ofQuotient?] at inRange ⊢
  split
  · next infinite =>
    rw [infinite] at inRange
    exact absurd rfl inRange
  · rfl

/-- A quotient in range is rounded to a number that is nearest to it. -/
theorem exists_isRounded (n : Int) (hd : 0 < d) (small : n.natAbs < limit * d) :
    ∃ x v, ofQuotient? n d = some x ∧ IsRounded (n / d) x v := by
  rw [ofQuotient?_eq_some n hd small, intCast_div_eq]
  rcases n.natAbs.eq_zero_or_pos with none | some
  · refine ⟨_, 0, rfl, ?_⟩
    rw [none, ofRatio, if_pos rfl, Nat.cast_zero, zero_div, applySign, neg_zero, ite_self]
    exact isRounded_zero _
  · exact ⟨_, _, rfl, isRounded_ofRatio _ some hd small⟩

theorem atPlace_neg (n d j : Nat) : atPlace n d (-j) = (n * 2 ^ j, d) := by
  cases j with
  | zero => simp [atPlace]
  | succ j => rw [atPlace, if_neg (by omega), neg_neg, Int.toNat_natCast]

/-- Rounding does not carry a quotient to the next integer where half a unit is less than what a
fraction with its denominator is below that. -/
theorem roundDiv_div_two_pow (n : Nat) {j : Nat} (hd : 0 < d) (fine : d < 2 ^ (j + 1)) :
    roundDiv (n * 2 ^ j) d / 2 ^ j = n / d := by
  apply Nat.div_eq_of_lt_le
  · apply le_roundDiv hd
    calc n / d * 2 ^ j * d = n / d * d * 2 ^ j := Nat.mul_right_comm _ _ _
      _ ≤ n * 2 ^ j := Nat.mul_le_mul_right _ (Nat.div_mul_le_self n d)
  · have above := (isNearest_roundDiv (n * 2 ^ j) hd).above
    have next : n + 1 ≤ (n / d + 1) * d := by
      rw [Nat.add_mul, Nat.one_mul]
      exact Nat.lt_div_mul_add hd
    have below := Nat.mul_le_mul_right (2 ^ j) next
    apply Nat.lt_of_mul_lt_mul_right (a := d)
    rw [Nat.mul_right_comm]
    rw [pow_succ] at fine
    rw [Nat.add_mul, Nat.one_mul] at below
    omega

/-- The integer part of a number with places behind the point. -/
theorem floor_mul_two_zpow_neg (m j : Nat) : ⌊(m : ℚ) * 2 ^ (-(j : Int))⌋₊ = m / 2 ^ j := by
  have quotient : (m : ℚ) * 2 ^ (-(j : Int)) = m / (2 ^ j : Nat) := by
    rw [zpow_neg, zpow_natCast, div_eq_mul_inv]
    push_cast
    rfl
  rw [quotient, Nat.floor_div_eq_div]

theorem magnitude_ratio (m : Nat) (e : Int) :
    0 < (magnitude m e).2 ∧ ((magnitude m e).1 : ℚ) / (magnitude m e).2 = m * 2 ^ e := by
  unfold magnitude
  split
  · next he =>
    obtain ⟨k, rfl⟩ : ∃ k : Nat, e = k := ⟨e.toNat, by omega⟩
    rw [Int.toNat_natCast, zpow_natCast]
    exact ⟨Nat.one_pos, by push_cast; rw [div_one]⟩
  · next he =>
    obtain ⟨k, rfl⟩ : ∃ k : Nat, e = -k := ⟨(-e).toNat, by omega⟩
    rw [neg_neg, Int.toNat_natCast, zpow_neg, zpow_natCast, ← div_eq_mul_inv]
    exact ⟨Nat.two_pow_pos k, by push_cast; rfl⟩

theorem magnitude_div (m : Nat) (e : Int) :
    (magnitude m e).1 / (magnitude m e).2 = ⌊(m : ℚ) * 2 ^ e⌋₊ := by
  rw [← (magnitude_ratio m e).2, Nat.floor_div_eq_div]

theorem truncate?_zero (negative : Bool) : (zero negative).truncate? = some 0 := by
  rw [zero, truncate?]
  dsimp only
  rw [magnitude_div, Nat.cast_zero, zero_mul, Nat.floor_zero, Nat.cast_zero, neg_zero, ite_self]

/-- Dropping the fraction of a rounded quotient gives the integer quotient, where rounding does not
carry to the next integer. -/
theorem truncate?_ofRatio (negative : Bool) (hn : 0 < n) (hd : 0 < d) (small : n < limit * d)
    {j : Nat} (place : roundingPlace n d = -j) (fine : d < 2 ^ (j + 1)) :
    (ofRatio negative n d).truncate? =
      some (if negative then -((n / d : Nat) : Int) else ((n / d : Nat) : Int)) := by
  obtain ⟨canonical, finite⟩ := ofRatio_eq_finite negative hn hd small
  have whole : ⌊(rounded n d : ℚ) * 2 ^ roundingPlace n d⌋₊ = n / d := by
    rw [place, floor_mul_two_zpow_neg, rounded, place, atPlace_neg]
    exact roundDiv_div_two_pow n hd fine
  rw [finite, truncate?]
  dsimp only
  rw [magnitude_div, carried_value, whole]

end Binary64
end ShareLinks
