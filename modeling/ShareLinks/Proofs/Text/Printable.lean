import ShareLinks.Text.Base64
import ShareLinks.Proofs.Number.Shortest
import ShareLinks.Proofs.Text.Base64
import ShareLinks.Proofs.Text.Percent

/-!
# Printable text

Whatever the encodings of a link are applied to, they write printable ASCII: escaped text, text in
form encoding, base64, and integers in decimal.
-/

namespace ShareLinks.Text

theorem of_ascii {P : Char → Prop} (all : ∀ n < 0x80, P (Char.ofNat n)) {c : Char}
    (ascii : c.toNat < 0x80) : P c := by
  have := all c.toNat ascii
  rwa [Char.ofNat_toNat] at this

/-- Printable ASCII, the space included. -/
def IsPrintable (cs : List Char) : Prop :=
  ∀ c ∈ cs, 0x20 ≤ c.toNat ∧ c.toNat < 0x7F

instance (cs : List Char) : Decidable (IsPrintable cs) :=
  decidable_of_iff (cs.all fun c => decide (0x20 ≤ c.toNat ∧ c.toNat < 0x7F))
    (by simp [IsPrintable])

theorem isPrintable_nil : IsPrintable [] :=
  List.forall_mem_nil _

theorem IsPrintable.append {cs ds : List Char} (hc : IsPrintable cs) (hd : IsPrintable ds) :
    IsPrintable (cs ++ ds) :=
  List.forall_mem_append.mpr ⟨hc, hd⟩

theorem IsPrintable.cons {c : Char} {cs : List Char} (hc : 0x20 ≤ c.toNat ∧ c.toNat < 0x7F)
    (hcs : IsPrintable cs) : IsPrintable (c :: cs) :=
  List.forall_mem_cons.mpr ⟨hc, hcs⟩

theorem printable_of_isAlphanum {c : Char} (h : c.isAlphanum = true) :
    0x20 ≤ c.toNat ∧ c.toNat < 0x7F := by
  delta Char.isAlphanum Char.isAlpha Char.isUpper Char.isLower Char.isDigit at h
  simp only [Bool.or_eq_true, Bool.and_eq_true, decide_eq_true_eq, ge_iff_le,
    UInt32.le_iff_toNat_le, UInt32.reduceToNat, Char.reduceVal] at h
  simp only [Char.toNat]
  omega

theorem printable_of_isUnreserved {c : Char} (h : isUnreserved c = true) :
    0x20 ≤ c.toNat ∧ c.toNat < 0x7F := by
  simp only [isUnreserved, Bool.or_eq_true, beq_iff_eq] at h
  rcases h with (((alphanum | rfl) | rfl) | rfl) | rfl
  · exact printable_of_isAlphanum alphanum
  all_goals decide

/-- Escaped text is printable where the characters that are kept are: those that no part of a link
escapes, and some signs. -/
theorem isPrintable_percentEncode (keep : Char → Bool) {signs : List Char}
    (kept : ∀ c, keep c = (isUnreserved c || signs.contains c)) (printable : IsPrintable signs)
    (cs : List Char) : IsPrintable (percentEncode keep cs) := by
  intro c hc
  rcases mem_percentEncode hc with keeps | rfl | alphanum
  · rw [kept, Bool.or_eq_true, List.contains_iff_mem] at keeps
    exact keeps.elim printable_of_isUnreserved (printable c)
  · decide
  · exact printable_of_isAlphanum alphanum

theorem isPrintable_formEncodeAll (pairs : List (String × String)) :
    IsPrintable (formEncodeAll pairs) := by
  intro c hc
  rcases mem_formEncodeAll hc with kept | rfl | rfl | rfl | rfl
  · exact printable_of_isUnreserved kept
  all_goals decide

theorem isPrintable_base64 (bytes : List UInt8) : IsPrintable (Base64.encode bytes) := by
  intro c hc
  exact of_ascii
    (P := fun c => Base64.isChar c = true → 0x20 ≤ c.toNat ∧ c.toNat < 0x7F)
    (by decide +kernel) (Base64.ascii_of_isChar (Base64.isChar_of_mem_encode bytes c hc))
    (Base64.isChar_of_mem_encode bytes c hc)

theorem mem_integerText {n : Int} {c : Char} (h : c ∈ integerText n) :
    c = '-' ∨ c.isDigit = true := by
  unfold integerText at h
  split at h
  · exact (List.mem_cons.mp h).imp_right isDigit_of_mem_decimalDigits
  · exact .inr (isDigit_of_mem_decimalDigits h)

theorem isPrintable_integerText (n : Int) : IsPrintable (integerText n) := by
  intro c hc
  rcases mem_integerText hc with rfl | digit
  · decide
  · exact printable_of_isAlphanum (by simp [Char.isAlphanum, digit])

end ShareLinks.Text
