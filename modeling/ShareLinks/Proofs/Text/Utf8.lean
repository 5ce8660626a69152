import Mathlib.Logic.Basic
import ShareLinks.Text.Utf8

/-!
# Reading back UTF-8

The encoding of a character is read as that character, whatever follows it, so decoding is the
inverse of encoding, with and without replacement.
-/

namespace ShareLinks.Text.Utf8

theorem isTail_iff (b : UInt8) : isTail b = true ↔ 0x80 ≤ b.toNat ∧ b.toNat < 0xC0 := by
  simp [isTail, UInt8.le_iff_toNat_le, UInt8.lt_iff_toNat_lt]

theorem mayFollow_iff (first second : UInt8) :
    mayFollow first second = true ↔ isTail second = true ∧
      (first.toNat = 0xE0 → 0xA0 ≤ second.toNat) ∧ (first.toNat = 0xED → second.toNat < 0xA0) ∧
      (first.toNat = 0xF0 → 0x90 ≤ second.toNat) ∧ (first.toNat = 0xF4 → second.toNat < 0x90) := by
  simp only [mayFollow, Bool.and_eq_true, Bool.or_eq_true, bne_iff_ne, ne_eq, decide_eq_true_eq,
    UInt8.le_iff_toNat_le, UInt8.lt_iff_toNat_lt, ← UInt8.toNat_inj, ← imp_iff_not_or, and_assoc]
  rfl

theorem next_one {b : UInt8} (first : b.toNat < 0x80) (rest : List UInt8) :
    next b rest = .char (Char.ofNat b.toNat) 1 := by
  have small : b < 0x80 := UInt8.lt_iff_toNat_lt.mpr first
  unfold next
  rw [if_pos small]

/-- What a first byte of a longer character is not. -/
theorem not_startByte {b : UInt8} (first : 0xC2 ≤ b.toNat ∧ b.toNat < 0xF5) :
    ¬ b < 0x80 ∧ (b < 0xC2 || 0xF5 ≤ b) = false := by
  simp only [Bool.or_eq_false_iff, decide_eq_false_iff_not, UInt8.le_iff_toNat_le,
    UInt8.lt_iff_toNat_lt, UInt8.reduceToNat]
  omega

theorem next_two {b second : UInt8} (first : 0xC2 ≤ b.toNat ∧ b.toNat < 0xE0)
    (tail : mayFollow b second = true) (rest : List UInt8) :
    next b (second :: rest) = .char (Char.ofNat (b.toNat % 32 * 64 + tailBits second)) 2 := by
  obtain ⟨notOne, start⟩ := not_startByte (b := b) (by omega)
  have two : b < 0xE0 := UInt8.lt_iff_toNat_lt.mpr first.2
  simp only [next, if_neg notOne, start, tail, two, if_true, Bool.not_true, Bool.false_eq_true,
    if_false]

theorem next_three {b second third : UInt8} (first : 0xE0 ≤ b.toNat ∧ b.toNat < 0xF0)
    (tail : mayFollow b second = true ∧ isTail third = true) (rest : List UInt8) :
    next b (second :: third :: rest) =
      .char (Char.ofNat ((b.toNat % 16 * 64 + tailBits second) * 64 + tailBits third)) 3 := by
  obtain ⟨notOne, start⟩ := not_startByte (b := b) (by omega)
  have notTwo : ¬ b < 0xE0 := by
    simp only [UInt8.lt_iff_toNat_lt, UInt8.reduceToNat]
    omega
  have three : b < 0xF0 := UInt8.lt_iff_toNat_lt.mpr first.2
  simp only [next, if_neg notOne, start, tail, if_neg notTwo, three, if_true, Bool.not_true,
    Bool.false_eq_true, if_false]

theorem next_four {b second third fourth : UInt8} (first : 0xF0 ≤ b.toNat ∧ b.toNat < 0xF5)
    (tail : mayFollow b second = true ∧ isTail third = true ∧ isTail fourth = true)
    (rest : List UInt8) :
    next b (second :: third :: fourth :: rest) =
      .char (Char.ofNat (((b.toNat % 8 * 64 + tailBits second) * 64 + tailBits third) * 64 +
        tailBits fourth)) 4 := by
  obtain ⟨notOne, start⟩ := not_startByte (b := b) (by omega)
  have notTwo : ¬ b < 0xE0 := by
    simp only [UInt8.lt_iff_toNat_lt, UInt8.reduceToNat]
    omega
  have notThree : ¬ b < 0xF0 := by
    simp only [UInt8.lt_iff_toNat_lt, UInt8.reduceToNat]
    omega
  simp only [next, if_neg notOne, start, tail, if_neg notTwo, if_neg notThree,
    Bool.not_true, Bool.false_eq_true, if_false]

/-- Surrogates are no characters. -/
theorem toNat_bounds (c : Char) : c.toNat < 0xD800 ∨ 0xE000 ≤ c.toNat ∧ c.toNat < 0x110000 := by
  rcases c.valid with h | h
  · exact .inl h
  · exact .inr ⟨by have := h.1; show 0xE000 ≤ c.val.toNat; omega, h.2⟩

theorem next_utf8EncodeChar (c : Char) (rest : List UInt8) :
    ∃ b tail, String.utf8EncodeChar c = b :: tail ∧
      next b (tail ++ rest) = .char c (tail.length + 1) := by
  have bounds := toNat_bounds c
  have byte {n : Nat} (h : n < 256) : (UInt8.ofNat n).toNat = n := by
    rw [UInt8.toNat_ofNat', Nat.mod_eq_of_lt h]
  have same {n : Nat} (h : n = c.toNat) : Char.ofNat n = c := by rw [h, Char.ofNat_toNat]
  have value : c.val.toNat = c.toNat := rfl
  unfold String.utf8EncodeChar
  simp only [value]
  split
  · refine ⟨_, [], rfl, ?_⟩
    rw [next_one (by rw [byte] <;> omega), same (byte (by omega))]
    rfl
  split
  · refine ⟨_, [_], rfl, ?_⟩
    rw [List.singleton_append, next_two, same]
    · rfl
    · rw [tailBits, byte (by omega), byte (by omega)]
      omega
    · rw [byte (by omega)]
      omega
    · rw [mayFollow_iff, isTail_iff, byte (by omega), byte (by omega)]
      omega
  split
  · refine ⟨_, [_, _], rfl, ?_⟩
    rw [List.cons_append, List.singleton_append, next_three, same]
    · rfl
    · rw [tailBits, tailBits, byte (by omega), byte (by omega), byte (by omega)]
      omega
    · rw [byte (by omega)]
      omega
    · rw [mayFollow_iff, isTail_iff, isTail_iff, byte (by omega), byte (by omega), byte (by omega)]
      omega
  · refine ⟨_, [_, _, _], rfl, ?_⟩
    rw [List.cons_append, List.cons_append, List.singleton_append, next_four, same]
    · rfl
    · rw [tailBits, tailBits, tailBits, byte (by omega), byte (by omega), byte (by omega),
        byte (by omega)]
      omega
    · rw [byte (by omega)]
      omega
    · rw [mayFollow_iff, isTail_iff, isTail_iff, isTail_iff, byte (by omega), byte (by omega),
        byte (by omega), byte (by omega)]
      omega

theorem decodeLossyFrom_append (passed rest : List UInt8) :
    decodeLossyFrom passed.length (passed ++ rest) = decodeLossyFrom 0 rest := by
  induction passed with
  | nil => rfl
  | cons b passed ih => rw [List.length_cons, List.cons_append, decodeLossyFrom, ih]

theorem decodeFrom_append (position : Nat) (passed rest : List UInt8) :
    decodeFrom position passed.length (passed ++ rest) =
      decodeFrom (position + passed.length) 0 rest := by
  induction passed generalizing position with
  | nil => rfl
  | cons b passed ih =>
    rw [List.length_cons, List.cons_append, decodeFrom, ih, Nat.add_assoc, Nat.add_comm 1]

theorem encode_cons {c : Char} {cs : List Char} {b : UInt8} {tail : List UInt8}
    (encoded : String.utf8EncodeChar c = b :: tail) :
    encode (c :: cs) = b :: (tail ++ encode cs) := by
  rw [encode, List.flatMap_cons, encoded, List.cons_append, encode]

theorem decodeLossy_encode (cs : List Char) : decodeLossy (encode cs) = cs := by
  unfold decodeLossy
  induction cs with
  | nil => rfl
  | cons c cs ih =>
    obtain ⟨b, tail, encoded, first⟩ := next_utf8EncodeChar c (encode cs)
    rw [encode_cons encoded, decodeLossyFrom, first]
    simp only [Nat.add_sub_cancel, decodeLossyFrom_append, ih]

theorem decodeFrom_encode (position : Nat) (cs : List Char) :
    decodeFrom position 0 (encode cs) = .ok cs := by
  induction cs generalizing position with
  | nil => rfl
  | cons c cs ih =>
    obtain ⟨b, tail, encoded, first⟩ := next_utf8EncodeChar c (encode cs)
    rw [encode_cons encoded, decodeFrom, first]
    simp only [Nat.add_sub_cancel, decodeFrom_append, ih, Except.map]

theorem decode_encode (cs : List Char) : decode (encode cs) = .ok cs :=
  decodeFrom_encode 0 cs

end ShareLinks.Text.Utf8
