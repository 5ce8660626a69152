import ShareLinks.Json.Parser
import ShareLinks.Json.Printer

/-!
# Reading back written strings

Every character of a string is written so that one step of the reader takes exactly its text and
yields the character again. Characters beyond the first plane are two escapes that form a pair.
-/

namespace ShareLinks.Json

theorem hexDigits_four (n : Nat) : Text.hexDigits 4 n =
    [Text.hexDigit (n / 16 / 16 / 16), Text.hexDigit (n / 16 / 16), Text.hexDigit (n / 16),
      Text.hexDigit n] := rfl

/-- The digits of an escape are read as the unit that they write, if one more character follows. -/
theorem readCodeUnit?_hexDigits {n : Nat} (hn : n < 0x10000) {tail : List Char}
    (more : tail ≠ []) : readCodeUnit? (Text.hexDigits 4 n ++ tail) = some (n, tail) := by
  obtain ⟨x, xs, rfl⟩ := List.exists_cons_of_ne_nil more
  simp only [hexDigits_four, List.cons_append, List.nil_append, readCodeUnit?,
    Text.hexValue?_hexDigit, Option.bind_eq_bind, Option.bind_some, Option.pure_def,
    Option.some.injEq, Prod.mk.injEq, and_true]
  omega

theorem isHighSurrogate_iff (n : Nat) :
    isHighSurrogate n = true ↔ 0xD800 ≤ n ∧ n ≤ 0xDBFF := by
  simp [isHighSurrogate]

theorem isLowSurrogate_iff (n : Nat) :
    isLowSurrogate n = true ↔ 0xDC00 ≤ n ∧ n ≤ 0xDFFF := by
  simp [isLowSurrogate]

theorem toNat_not_surrogate (c : Char) : c.toNat < 0xD800 ∨ 0xDFFF < c.toNat := by
  rcases c.valid with low | ⟨high, _⟩
  · exact .inl low
  · exact .inr high

theorem toNat_lt (c : Char) : c.toNat < 0x110000 := by
  rcases c.valid with low | ⟨_, high⟩
  · exact Nat.lt_trans low (by decide)
  · exact high

theorem readUnit_toNat (c : Char) (rest : List Char) : readUnit c.toNat rest = .ok (c, rest) := by
  have valid := toNat_not_surrogate c
  have high : isHighSurrogate c.toNat = false := by
    rw [Bool.eq_false_iff, ne_eq, isHighSurrogate_iff]; omega
  have low : isLowSurrogate c.toNat = false := by
    rw [Bool.eq_false_iff, ne_eq, isLowSurrogate_iff]; omega
  simp [readUnit, high, low]

theorem readUnicodeEscape_unit {c : Char} (hc : c.toNat < 0x10000) {tail : List Char}
    (more : tail ≠ []) :
    readUnicodeEscape ('u' :: (Text.hexDigits 4 c.toNat ++ tail)) = .ok (c, tail) := by
  have valid := toNat_not_surrogate c
  have high : isHighSurrogate c.toNat = false := by
    rw [Bool.eq_false_iff, ne_eq, isHighSurrogate_iff]; omega
  simp only [readUnicodeEscape, List.drop_one, List.tail_cons, readCodeUnit?_hexDigits hc more,
    high, Bool.false_and, Bool.false_eq_true, if_false, readUnit_toNat]

theorem readUnicodeEscape_pair {high low : Nat} (isHigh : isHighSurrogate high = true)
    (isLow : isLowSurrogate low = true) {tail : List Char} (more : tail ≠ []) :
    readUnicodeEscape ('u' :: (Text.hexDigits 4 high ++
      ('\\' :: 'u' :: (Text.hexDigits 4 low ++ tail)))) =
      .ok (Char.ofNat (0x10000 + (high - 0xD800) * 0x400 + (low - 0xDC00)), tail) := by
  have highBound := (isHighSurrogate_iff high).mp isHigh
  have lowBound := (isLowSurrogate_iff low).mp isLow
  have second := readCodeUnit?_hexDigits (n := low) (by omega) more
  have more' : '\\' :: 'u' :: (Text.hexDigits 4 low ++ tail) ≠ [] := by simp
  have first := readCodeUnit?_hexDigits (n := high) (by omega) more'
  have longer : (('\\' :: 'u' :: (Text.hexDigits 4 low ++ tail)).drop 6).isEmpty = false := by
    simpa [hexDigits_four] using more
  have begins : ('\\' :: 'u' :: (Text.hexDigits 4 low ++ tail)).take 2 = ['\\', 'u'] := rfl
  have behind : ('\\' :: 'u' :: (Text.hexDigits 4 low ++ tail)).drop 2 =
    Text.hexDigits 4 low ++ tail := rfl
  simp only [readUnicodeEscape, List.drop_one, List.tail_cons, first, isHigh, longer, begins,
    Bool.not_false, Bool.and_self, beq_self_eq_true, if_true, behind, second, isLow]

/-- A character beyond the first plane, as the two units of its surrogate pair. -/
theorem readUnicodeEscape_supplementary {c : Char} {n : Nat} (hc : c.toNat = 0x10000 + n)
    {tail : List Char} (more : tail ≠ []) :
    readUnicodeEscape ('u' :: (Text.hexDigits 4 (0xD800 + n / 0x400) ++
      ('\\' :: 'u' :: (Text.hexDigits 4 (0xDC00 + n % 0x400) ++ tail)))) = .ok (c, tail) := by
  have bound := toNat_lt c
  have isHigh : isHighSurrogate (0xD800 + n / 0x400) = true := by
    rw [isHighSurrogate_iff]; omega
  have isLow : isLowSurrogate (0xDC00 + n % 0x400) = true := by
    rw [isLowSurrogate_iff]; omega
  have joined : 0x10000 + (0xD800 + n / 0x400 - 0xD800) * 0x400 +
      (0xDC00 + n % 0x400 - 0xDC00) = c.toNat := by omega
  rw [readUnicodeEscape_pair isHigh isLow more, joined, Char.ofNat_toNat]

theorem readStringBody_charText (opening : List Char) (fuel : Nat) (done : List Char)
    (ascii : Bool) (c : Char) {tail : List Char} (more : tail ≠ []) :
    readStringBody opening (fuel + 1) done (charText ascii c ++ tail) =
      readStringBody opening fuel (c :: done) tail := by
  unfold charText
  split
  · subst c; rfl
  split
  · subst c; rfl
  split
  · subst c; rfl
  split
  · subst c; rfl
  split
  · subst c; rfl
  split
  · subst c; rfl
  split
  · subst c; rfl
  split
  · next small =>
    have escape := readUnicodeEscape_unit (c := c) (by omega) more
    simp only [unitEscape, List.cons_append]
    rw [readStringBody, escape]
  split
  · next notQuote notBackslash _ _ _ _ _ large _ =>
    conv => lhs; unfold readStringBody
    simp only [List.cons_append, List.nil_append]
    split
    · next h => simp at h
    · next h => injection h with h _; exact absurd h notQuote
    · next h => injection h with h _; exact absurd h notBackslash
    · next h => injection h with h _; exact absurd h notBackslash
    · next h => injection h with h _; exact absurd h notBackslash
    · next h =>
      injection h with head rest
      subst head rest
      rw [if_neg large]
  split
  · next plane =>
    have escape := readUnicodeEscape_unit plane more
    simp only [unitEscape, List.cons_append]
    rw [readStringBody, escape]
  · next plane =>
    generalize offset : c.toNat - 0x10000 = n
    have escape := readUnicodeEscape_supplementary (c := c) (n := n) (by omega) more
    simp only [unitEscape, List.cons_append, List.append_assoc]
    rw [readStringBody, escape]

theorem charText_ne_nil (ascii : Bool) (c : Char) : charText ascii c ≠ [] := by
  unfold charText unitEscape
  repeat' split
  all_goals simp

theorem length_le_flatMap_charText (ascii : Bool) (cs : List Char) :
    cs.length ≤ (cs.flatMap (charText ascii)).length := by
  induction cs with
  | nil => simp
  | cons c cs ih =>
    have := List.length_pos_iff.mpr (charText_ne_nil ascii c)
    simp only [List.length_cons, List.flatMap_cons, List.length_append]
    omega

theorem readStringBody_flatMap (opening : List Char) (ascii : Bool) (cs done rest : List Char)
    {fuel : Nat} (enough : cs.length < fuel) :
    readStringBody opening fuel done (cs.flatMap (charText ascii) ++ '"' :: rest) =
      .ok (String.ofList (done.reverse ++ cs), rest) := by
  induction cs generalizing done fuel with
  | nil =>
    obtain ⟨fuel, rfl⟩ : ∃ f, fuel = f + 1 := ⟨fuel - 1, by omega⟩
    simp [readStringBody]
  | cons c cs ih =>
    simp only [List.length_cons] at enough
    obtain ⟨fuel, rfl⟩ : ∃ f, fuel = f + 1 := ⟨fuel - 1, by omega⟩
    rw [List.flatMap_cons, List.append_assoc,
      readStringBody_charText opening fuel done ascii c (by simp), ih (c :: done) (by omega),
      List.reverse_cons, List.append_assoc, List.singleton_append]

theorem readString_stringText (ascii : Bool) (s : String) (rest : List Char) {fuel : Nat}
    (enough : (stringText ascii s).length ≤ fuel) :
    readString fuel (stringText ascii s ++ rest) = .ok (s, rest) := by
  have bound := length_le_flatMap_charText ascii s.toList
  simp only [stringText, List.cons_append, List.length_cons, List.length_append,
    List.length_nil] at enough
  have shorter : s.toList.length < fuel := by omega
  have body := readStringBody_flatMap (stringText ascii s ++ rest) ascii s.toList [] rest shorter
  rw [List.reverse_nil, List.nil_append, String.ofList_toList] at body
  rw [readString, ← body]
  simp [stringText]

end ShareLinks.Json
