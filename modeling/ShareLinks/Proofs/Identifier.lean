import Mathlib.Algebra.Ring.Nat
import ShareLinks.Proofs.Source
import ShareLinks.Proofs.Text.Split

/-!
# Random identifiers

An identifier shows a number of 128 bits in five groups of hexadecimal digits. Six of the bits give
way to version and variant; all others can be read off it, so two numbers have the same identifier
exactly where they agree outside of these six.
-/

namespace ShareLinks

namespace Text

/-- The digits that hexadecimal numbers are written in. -/
def hexAlphabet : List Char :=
  "0123456789abcdef".toList

theorem hexDigit_mem (n : Nat) : hexDigit n ∈ hexAlphabet := by
  have all : ∀ k : Fin 16, Nat.digitChar k ∈ hexAlphabet := by decide
  exact all ⟨n % 16, Nat.mod_lt n (by decide)⟩

theorem mem_hexDigits {count n : Nat} {c : Char} (h : c ∈ hexDigits count n) : c ∈ hexAlphabet := by
  induction count generalizing n with
  | zero => cases h
  | succ count ih =>
    rcases List.mem_append.mp h with front | last
    · exact ih front
    · rw [List.mem_singleton.mp last]
      exact hexDigit_mem n

theorem hexDigits_congr {count n m : Nat} (h : n % 16 ^ count = m % 16 ^ count) :
    hexDigits count n = hexDigits count m := by
  induction count generalizing n m with
  | zero => rfl
  | succ count ih =>
    rw [Nat.pow_succ', Nat.mod_mul, Nat.mod_mul] at h
    have last : n % 16 = m % 16 := by omega
    have front : n / 16 % 16 ^ count = m / 16 % 16 ^ count := by omega
    rw [hexDigits, hexDigits, ih front, hexDigit, hexDigit, last]

theorem hexDigits_add (front count n : Nat) :
    hexDigits (front + count) n = hexDigits front (n / 16 ^ count) ++ hexDigits count n := by
  induction count generalizing n with
  | zero => simp [hexDigits]
  | succ count ih =>
    rw [← Nat.add_assoc, hexDigits, ih, hexDigits, Nat.div_div_eq_div_mul, ← Nat.pow_succ',
      List.append_assoc]

end Text

namespace Source

open Text

/-- The bits that version and variant take, counted from the last one. -/
def fixedBits : List Nat :=
  [62, 63, 76, 77, 78, 79]

/-- Two numbers agree in their last 128 bits but for the fixed ones. -/
def AgreeOutsideFixed (n m : Nat) : Prop :=
  ∀ k < 128, k ∉ fixedBits → n.testBit k = m.testBit k

instance (n m : Nat) : Decidable (AgreeOutsideFixed n m) :=
  inferInstanceAs (Decidable (∀ k < 128, k ∉ fixedBits → n.testBit k = m.testBit k))

/-- A run of bits of a number. -/
def slice (start width n : Nat) : Nat :=
  n / 2 ^ start % 2 ^ width

theorem testBit_slice (start width n k : Nat) :
    (slice start width n).testBit k = (decide (k < width) && n.testBit (start + k)) := by
  rw [slice, Nat.testBit_mod_two_pow, Nat.testBit_div_two_pow, Nat.add_comm]

theorem slice_eq_iff {start width n m : Nat} : slice start width n = slice start width m ↔
    ∀ k, start ≤ k → k < start + width → n.testBit k = m.testBit k := by
  constructor
  · intro same k low high
    obtain ⟨j, rfl⟩ := Nat.exists_eq_add_of_le low
    have bit := congrArg (fun slice => Nat.testBit slice j) same
    simpa [testBit_slice, show j < width by omega] using bit
  · intro bits
    apply Nat.eq_of_testBit_eq
    intro j
    rw [testBit_slice, testBit_slice]
    by_cases inside : j < width
    · rw [bits (start + j) (by omega) (by omega)]
    · simp [inside]

/-- The runs of bits between the fixed ones: where they start, and their widths. -/
def freeRuns : List (Nat × Nat) :=
  [(80, 48), (64, 12), (48, 14), (0, 48)]

theorem free_iff_mem_run {k : Nat} : k < 128 ∧ k ∉ fixedBits ↔
    ∃ run ∈ freeRuns, run.1 ≤ k ∧ k < run.1 + run.2 := by
  simp only [fixedBits, freeRuns, List.mem_cons, List.not_mem_nil, or_false, exists_eq_or_imp,
    exists_eq_left]
  omega

theorem agreeOutsideFixed_iff {n m : Nat} : AgreeOutsideFixed n m ↔
    ∀ run ∈ freeRuns, slice run.1 run.2 n = slice run.1 run.2 m := by
  constructor
  · intro agree run hrun
    apply slice_eq_iff.mpr
    intro k low high
    obtain ⟨bound, free⟩ := free_iff_mem_run.mpr ⟨run, hrun, low, high⟩
    exact agree k bound free
  · intro same k bound free
    obtain ⟨run, hrun, low, high⟩ := free_iff_mem_run.mp ⟨bound, free⟩
    exact slice_eq_iff.mp (same run hrun) k low high

/-- A number with version and variant in place of the fixed bits. -/
def marked (n : Nat) : Nat :=
  slice 80 48 n * 2 ^ 80 + 4 * 2 ^ 76 + slice 64 12 n * 2 ^ 64 +
    (0x8000 + slice 48 14 n) * 2 ^ 48 + slice 0 48 n

theorem agreeOutsideFixed_marked (n : Nat) : AgreeOutsideFixed (marked n) n := by
  apply agreeOutsideFixed_iff.mpr
  simp only [freeRuns, List.forall_mem_cons, marked, slice]
  refine ⟨?_, ?_, ?_, ?_, by simp⟩ <;> omega

/-- Digits that stand for no fixed bit are those of the number itself. -/
theorem hexDigits_marked {count start : Nat} (n : Nat)
    (free : ∀ k < 4 * count, start + k < 128 ∧ start + k ∉ fixedBits) :
    hexDigits count (marked n / 2 ^ start) = hexDigits count (n / 2 ^ start) := by
  apply hexDigits_congr
  have width : 16 ^ count = 2 ^ (4 * count) := by rw [Nat.pow_mul]
  rw [width]
  apply slice_eq_iff.mpr
  intro k low high
  obtain ⟨j, rfl⟩ := Nat.exists_eq_add_of_le low
  obtain ⟨bound, other⟩ := free j (by omega)
  exact agreeOutsideFixed_marked n _ bound other

/-- The digits of a number of 128 bits in five groups. -/
def groups (n : Nat) : List (List Char) :=
  [hexDigits 8 (n / 2 ^ 96), hexDigits 4 (n / 2 ^ 80), hexDigits 4 (n / 2 ^ 64),
    hexDigits 4 (n / 2 ^ 48), hexDigits 12 n]

/-- An identifier is made of the groups of its number, with a dash between each two. -/
theorem identifierText_eq (n : Nat) : identifierText n = ['-'].intercalate (groups (marked n)) := by
  have version : hexDigits 4 (marked n / 2 ^ 64) = '4' :: hexDigits 3 (n / 2 ^ 64) := by
    have leading : hexDigits 1 (marked n / 2 ^ 64 / 16 ^ 3) = hexDigits 1 4 :=
      hexDigits_congr (by unfold marked slice; omega)
    rw [hexDigits_add 1 3, leading, hexDigits_marked n (by decide)]
    rfl
  have variant : hexDigits 4 (marked n / 2 ^ 48) = hexDigits 4 (0x8000 + n / 2 ^ 48 % 0x4000) :=
    hexDigits_congr (by unfold marked slice; omega)
  have last : hexDigits 12 (marked n) = hexDigits 12 n := by
    have whole := @hexDigits_marked 12 0 n (by decide)
    rwa [Nat.pow_zero, Nat.div_one, Nat.div_one] at whole
  rw [groups, hexDigits_marked n (by decide), hexDigits_marked n (by decide), version, variant,
    last]
  simp [identifierText, List.intercalate]

theorem mem_hexAlphabet_of_mem_groups {n : Nat} {group : List Char} (h : group ∈ groups n)
    {c : Char} (hc : c ∈ group) : c ∈ hexAlphabet := by
  simp only [groups, List.mem_cons, List.not_mem_nil, or_false] at h
  rcases h with rfl | rfl | rfl | rfl | rfl <;> exact mem_hexDigits hc

end Source
end ShareLinks
