import Mathlib.Order.Bounds.Basic
import ShareLinks.Proofs.Number.Range
import ShareLinks.Proofs.Number.Shortest
import ShareLinks.Proofs.Text.Split
import ShareLinks.Traffic

/-!
# What the label of an amount of data shows

A label is read back as a number of hundredths of a unit. For whole numbers of bytes that floating
point holds exactly it is off by half a hundredth at most, and never shows less for more. The unit
is chosen before the number is rounded, so just below a unit a label shows 1024 of the one before.
-/

namespace ShareLinks.DataAmount

open Text

/-- What a label shows: a number, and the place of its unit among the units. -/
structure Shown where
  number : ℚ
  unit : Nat

/-- The amount that is shown, in bytes. -/
def Shown.bytes (s : Shown) : ℚ :=
  s.number * 1024 ^ s.unit

/-- Characters of a decimal. -/
def isDecimalChar (c : Char) : Bool :=
  c.isDigit || c == '.'

/-- The value of a decimal with digits on both sides of its point. -/
def decimalValue? (cs : List Char) : Option ℚ :=
  match cut '.' cs with
  | (_, none) => none
  | (whole, some places) =>
    if whole ≠ [] ∧ places ≠ [] ∧ (whole ++ places).all Char.isDigit then
      some (digitsValue whole + digitsValue places / 10 ^ places.length)
    else none

/-- Reads a decimal and the name of the unit behind it. -/
def read? (label : String) : Option Shown := do
  let number ← decimalValue? (label.toList.takeWhile isDecimalChar)
  let unit ← units.idxOf? (String.ofList (label.toList.dropWhile isDecimalChar))
  pure { number, unit }

/-- Hundredths as a decimal with two places. -/
def hundredthsText (h : Nat) : List Char :=
  decimalDigits (h / 100) ++
    '.' :: (if h % 100 < 10 then '0' :: decimalDigits (h % 100) else decimalDigits (h % 100))

theorem twoPlaces_digits : ∀ r < 100,
    let places := if r < 10 then '0' :: decimalDigits r else decimalDigits r
    places.length = 2 ∧ places.all Char.isDigit = true ∧ digitsValue places = r := by
  decide

theorem mem_hundredthsText {h : Nat} {c : Char} (hc : c ∈ hundredthsText h) :
    isDecimalChar c = true := by
  have digits := (twoPlaces_digits (h % 100) (Nat.mod_lt h (by decide))).2.1
  rcases List.mem_append.mp hc with whole | places
  · simp [isDecimalChar, isDigit_of_mem_decimalDigits whole]
  · rcases List.mem_cons.mp places with rfl | place
    · decide
    · simp [isDecimalChar, List.all_eq_true.mp digits c place]

theorem decimalValue?_hundredthsText (h : Nat) :
    decimalValue? (hundredthsText h) = some ((h : ℚ) / 100) := by
  have point : '.' ∉ decimalDigits (h / 100) := fun hc =>
    absurd (isDigit_of_mem_decimalDigits hc) (by decide)
  have whole : (decimalDigits (h / 100)).all Char.isDigit = true :=
    List.all_eq_true.mpr fun c hc => isDigit_of_mem_decimalDigits hc
  obtain ⟨length, digits, value⟩ := twoPlaces_digits (h % 100) (Nat.mod_lt h (by decide))
  have split : (h : ℚ) = 100 * (h / 100 : Nat) + (h % 100 : Nat) := by
    exact_mod_cast (Nat.div_add_mod h 100).symm
  unfold decimalValue? hundredthsText
  generalize (if h % 100 < 10 then _ else _ : List Char) = places at length digits value ⊢
  have some : places ≠ [] := List.ne_nil_of_length_pos (by omega)
  simp only [cut_append point]
  rw [if_pos ⟨decimalDigits_ne_nil _, some, by rw [List.all_append, whole, digits]; rfl⟩,
    digitsValue_decimalDigits, length, value, split]
  congr 1
  ring

theorem unit_names : ∀ k < 6,
    (units.getD k "").toList.takeWhile isDecimalChar = [] ∧
      units.idxOf? (String.ofList ((units.getD k "").toList.dropWhile isDecimalChar)) = some k := by
  decide

/-- The label of a number of hundredths of a unit is read back. -/
theorem read?_label (h : Nat) {k : Nat} (hk : k < 6) :
    read? (String.ofList (hundredthsText h) ++ units.getD k "") = some ⟨(h : ℚ) / 100, k⟩ := by
  obtain ⟨before, behind⟩ := unit_names k hk
  have decimal : ∀ c ∈ hundredthsText h, isDecimalChar c = true := fun c => mem_hundredthsText
  rw [read?, String.toList_append, String.toList_ofList, List.takeWhile_append_of_pos decimal,
    List.dropWhile_append_of_pos decimal, before, behind, List.append_nil,
    decimalValue?_hundredthsText]
  rfl

theorem unitIndex_mul_right (n : Nat) {c : Nat} (hc : 0 < c) (larger d : Nat) :
    unitIndex (n * c) (d * c) larger = unitIndex n d larger := by
  induction larger generalizing d with
  | zero => rfl
  | succ larger ih =>
    have same : 1024 * (d * c) ≤ n * c ↔ 1024 * d ≤ n := by
      rw [← Nat.mul_assoc]
      exact Nat.mul_le_mul_right_iff hc
    rw [unitIndex, unitIndex, if_congr same rfl rfl, ← Nat.mul_assoc, ih]

/-- An amount is divided until there are less than 1024 of the unit, or no larger one is left. -/
theorem isLeast_unitIndex (n d larger : Nat) :
    IsLeast {k | n < 1024 ^ (k + 1) * d ∨ k = larger} (unitIndex n d larger) := by
  induction larger generalizing d with
  | zero => exact ⟨.inr rfl, fun k _ => Nat.zero_le k⟩
  | succ larger ih =>
    rw [unitIndex]
    split
    · next reached =>
      have shifted (k : Nat) : 1024 ^ (k + 1) * (1024 * d) = 1024 ^ (k + 1 + 1) * d := by
        rw [pow_succ 1024 (k + 1), Nat.mul_assoc]
      obtain ⟨ends, least⟩ := ih (1024 * d)
      constructor
      · rcases ends with below | last
        · exact .inl (shifted _ ▸ below)
        · exact .inr (congrArg (· + 1) last)
      · rintro k fits
        cases k with
        | zero =>
          rcases fits with below | last
          · rw [Nat.zero_add, pow_one] at below
            omega
          · cases last
        | succ k =>
          refine Nat.succ_le_succ (least (fits.imp (fun below => ?_) Nat.succ.inj))
          rwa [shifted]
    · next below =>
      refine ⟨.inl ?_, fun k _ => Nat.zero_le k⟩
      rw [Nat.zero_add, pow_one]
      omega

/-- The unit of a number of bytes is the first of which there are less than 1024, or the last. -/
theorem isLeast_unitIndex_bytes (n : Nat) :
    IsLeast {k | n < 1024 ^ (k + 1) ∨ k = 5} (unitIndex n 1 5) := by
  simpa only [Nat.mul_one] using isLeast_unitIndex n 1 5

theorem unitIndex_lt (n : Nat) : unitIndex n 1 5 < 6 := by
  have last := (isLeast_unitIndex_bytes n).2 (show 5 ∈ _ from .inr rfl)
  omega

theorem pow_unitIndex_le {n : Nat} (h : unitIndex n 1 5 ≠ 0) : 1024 ^ unitIndex n 1 5 ≤ n := by
  by_contra less
  have before := (isLeast_unitIndex_bytes n).2 (show unitIndex n 1 5 - 1 ∈ _ from .inl (by
    rw [Nat.sub_add_cancel (Nat.one_le_iff_ne_zero.mpr h)]
    omega))
  omega

theorem lt_pow_unitIndex {n : Nat} (h : unitIndex n 1 5 ≠ 5) : n < 1024 ^ (unitIndex n 1 5 + 1) :=
  (isLeast_unitIndex_bytes n).1.resolve_right h

/-- The hundredths of its unit that are shown for a number of bytes. -/
def hundredths (n : Nat) : Nat :=
  roundDiv (n * 100) (1024 ^ unitIndex n 1 5)

/-- What the label of a number of bytes shows. -/
def shown (n : Nat) : Shown where
  number := (hundredths n : ℚ) / 100
  unit := unitIndex n 1 5

/-- A number of bytes that floating point holds exactly has a label, and this is read back. -/
theorem render_natCast {n : Nat} (h : n ≤ 2 ^ 53) :
    ∃ label, render (.int n) = .ok label ∧ read? label = some (shown n) := by
  obtain ⟨m, e, canonical, held, value⟩ := Binary64.ofInt?_natCast h
  obtain ⟨positive, scaled⟩ := Binary64.magnitude_of_value value
  have unit : unitOf (.finite false m e canonical) = unitIndex n 1 5 := by
    have same := unitIndex_mul_right n positive 5 1
    rw [Nat.one_mul, ← scaled] at same
    exact same
  have places (units : Nat) : (Binary64.finite false m e canonical).twoPlaces words units =
      hundredthsText (roundDiv (n * 100) units) := by
    have rounded := roundDiv_mul_right (n * 100) units positive
    rw [Nat.mul_right_comm, ← scaled, Nat.mul_comm units] at rounded
    rw [← rounded]
    rfl
  refine ⟨_, by rw [render, ofNumber, held]; rfl, ?_⟩
  rw [text, unit, places]
  exact read?_label _ (unitIndex_lt n)

theorem hundred_le_hundredths {n : Nat} (h : unitIndex n 1 5 ≠ 0) : 100 ≤ hundredths n := by
  have := pow_unitIndex_le h
  exact le_roundDiv (by positivity) (by omega)

/-- No more than 1024 are shown of a unit that is not the last. -/
theorem hundredths_le {n : Nat} (h : unitIndex n 1 5 ≠ 5) : hundredths n ≤ 102400 := by
  have below := lt_pow_unitIndex h
  rw [pow_succ] at below
  exact roundDiv_le (by positivity) (by omega)

/-- Less than half a hundredth of a unit is missing to the next one. -/
def IsJustBelowUnit (n : Nat) : Prop :=
  ∃ k, 1 ≤ k ∧ k ≤ 4 ∧ (1023.995 : ℚ) * 1024 ^ k ≤ n ∧ n < 1024 ^ (k + 1)

/-- Numbers are rounded up to 1024 from half a hundredth below it on, since that is even in
hundredths. -/
theorem le_hundredths_iff (n : Nat) :
    102400 ≤ hundredths n ↔ (1023.995 : ℚ) * 1024 ^ unitIndex n 1 5 ≤ n := by
  have reached : 102399 + 1 ≤ hundredths n ↔ _ :=
    succ_le_roundDiv_iff (n := n * 100) (d := 1024 ^ unitIndex n 1 5) (by positivity) (by decide)
  rw [reached, ← Nat.cast_le (α := ℚ)]
  push_cast
  constructor <;> intro h <;> linarith

theorem unitIndex_eq {n k : Nat} (hk : k < 6) (reached : 1024 ^ k ≤ n)
    (below : n < 1024 ^ (k + 1)) : unitIndex n 1 5 = k := by
  refine le_antisymm ((isLeast_unitIndex_bytes n).2 (.inl below)) ?_
  by_contra less
  have next : 1024 ^ (unitIndex n 1 5 + 1) ≤ 1024 ^ k := Nat.pow_le_pow_right (by decide) (by omega)
  have := lt_pow_unitIndex (n := n) (by omega)
  omega

theorem isJustBelowUnit_iff (n : Nat) :
    IsJustBelowUnit n ↔ unitIndex n 1 5 ≠ 5 ∧ 102400 ≤ hundredths n := by
  rw [le_hundredths_iff]
  constructor
  · rintro ⟨k, first, last, near, below⟩
    have reached : 1024 ^ k ≤ n := by
      have power : (0 : ℚ) < 1024 ^ k := by positivity
      have whole : (1024 : ℚ) ^ k ≤ n := by linarith
      exact_mod_cast whole
    rw [unitIndex_eq (by omega) reached below]
    exact ⟨by omega, near⟩
  · rintro ⟨notLast, near⟩
    have last := unitIndex_lt n
    have below := lt_pow_unitIndex notLast
    refine ⟨unitIndex n 1 5, ?_, by omega, near, below⟩
    by_contra first
    obtain zero : unitIndex n 1 5 = 0 := by omega
    rw [zero] at near below
    have small : (n : ℚ) + 1 ≤ 1024 := by exact_mod_cast below
    norm_num at near
    linarith

/-- But for bytes, the number of a label is at least one. Below the last unit it is less than 1024,
except just below the next unit: there it is 1024. -/
theorem label_number_lt_iff {n : Nat} (bounded : n ≤ 2 ^ 53) :
    ∃ (label : String) (s : Shown), render (.int n) = .ok label ∧ read? label = some s ∧
      (s.unit ≠ 0 → 1 ≤ s.number) ∧
      (s.unit ≠ 5 → (s.number < 1024 ↔ ¬ IsJustBelowUnit n)) ∧
      (IsJustBelowUnit n → s.unit ≠ 5 ∧ s.number = 1024) := by
  obtain ⟨label, wrote, reads⟩ := render_natCast bounded
  have number {c : Nat} : (c : ℚ) ≤ (shown n).number ↔ c * 100 ≤ hundredths n := by
    rw [shown, le_div_iff₀ (by norm_num)]
    norm_cast
  refine ⟨label, shown n, wrote, reads, fun notFirst => ?_, fun notLast => ?_, fun near => ?_⟩
  · exact_mod_cast (number (c := 1)).mpr (hundred_le_hundredths notFirst)
  · rw [isJustBelowUnit_iff, not_and, ← not_le]
    have large := number (c := 1024)
    rw [Nat.cast_ofNat] at large
    rw [large]
    exact ⟨fun h _ => h, fun h => h notLast⟩
  · obtain ⟨notLast, full⟩ := (isJustBelowUnit_iff n).mp near
    have all : hundredths n = 102400 := le_antisymm (hundredths_le notLast) full
    refine ⟨notLast, ?_⟩
    rw [shown, all]
    norm_num

/-- The byte before a megabyte is shown as 1024 of a kilobyte. -/
theorem byte_before_megabyte :
    ∃ s : Shown, render (.int (1048575 : Nat)) = .ok "1024.00KB" ∧
      read? "1024.00KB" = some s ∧ s.unit ≠ 5 ∧ s.number = 1024 := by
  have wrote : render (.int (1048575 : Nat)) = .ok "1024.00KB" := by rfl
  have near : IsJustBelowUnit 1048575 := ⟨1, by norm_num, by norm_num, by norm_num, by norm_num⟩
  obtain ⟨label, s, wrote', reads, -, -, full⟩ :=
    label_number_lt_iff (n := 1048575) (by norm_num)
  obtain rfl := Except.ok.inj (wrote.symm.trans wrote')
  exact ⟨s, wrote, reads, full near⟩

end ShareLinks.DataAmount
