import Mathlib.Data.List.TakeDrop
import ShareLinks.Json.Parser
import ShareLinks.Json.Printer
import ShareLinks.Proofs.Number.Shortest

/-!
# Reading back written numbers

A number is written as a whole part, which may be followed by places behind a point and by an
exponent. Reading such a text takes all of it as soon as what follows cannot continue a number,
and the parts have the value that was written.
-/

namespace ShareLinks

/-- Digits as the whole part of a number has them: zero alone, or none of them leading. -/
structure IsWhole (ds : List Char) : Prop where
  nonempty : ds ≠ []
  digits : ∀ c ∈ ds, c.isDigit = true
  leading : ds = ['0'] ∨ ds.head? ≠ some '0'

theorem digitChar_ne_zero : ∀ d < 10, d ≠ 0 → Nat.digitChar d ≠ '0' := by decide

theorem head?_decimalDigits {n : Nat} (hn : n ≠ 0) : (decimalDigits n).head? ≠ some '0' := by
  induction n using Nat.strongRecOn with
  | ind n ih =>
    by_cases small : n < 10
    · rw [decimalDigits, Nat.toDigits_of_lt_base small]
      simpa using digitChar_ne_zero n small hn
    · rw [decimalDigits, Nat.toDigits_of_base_le (by decide) (by omega),
        List.head?_append_of_ne_nil _ Nat.toDigits_ne_nil]
      exact ih (n / 10) (by omega) (by omega)

theorem isWhole_decimalDigits (n : Nat) : IsWhole (decimalDigits n) where
  nonempty := decimalDigits_ne_nil n
  digits _ h := isDigit_of_mem_decimalDigits h
  leading := by
    by_cases hn : n = 0
    · subst n; exact .inl rfl
    · exact .inr (head?_decimalDigits hn)

theorem digitsValue_append_zeros (ds : List Char) (k : Nat) :
    digitsValue (ds ++ List.replicate k '0') = digitsValue ds * 10 ^ k := by
  have h := Nat.ofDigitChars_append (b := 10) (l := ds) (m := List.replicate k '0') 0
  rw [Nat.ofDigitChars_replicate_zero, Nat.mul_comm] at h
  exact h

theorem digitsValue_zeros_append (k : Nat) (ds : List Char) :
    digitsValue (List.replicate k '0' ++ ds) = digitsValue ds := by
  have h := Nat.ofDigitChars_append (b := 10) (l := List.replicate k '0') (m := ds) 0
  rw [Nat.ofDigitChars_replicate_zero, Nat.mul_zero] at h
  exact h

/-- The places of a number behind their point. -/
def pointText (places : List Char) : List Char := if places.isEmpty then [] else '.' :: places

/-- The exponent of a number behind its letter. -/
def powerText : Option Int → List Char
  | none => []
  | some e => Decimal.exponentText e

/-- The decimal that the parts of a number stand for. -/
def Decimal.ofParts (whole places : List Char) (power : Option Int) : Decimal :=
  ⟨digitsValue (whole ++ places), power.getD 0 - places.length⟩

/-- A text that writes a decimal in the form of a floating point number, by its parts. -/
structure Decimal.SpelledBy (d : Decimal) (text whole places : List Char) (power : Option Int) :
    Prop where
  isWhole : IsWhole whole
  placeDigits : ∀ c ∈ places, c.isDigit = true
  floating : places ≠ [] ∨ power.isSome
  text_eq : text = whole ++ pointText places ++ powerText power
  value : Decimal.ofParts whole places power = d

namespace Decimal

theorem isWhole_zero : IsWhole ['0'] where
  nonempty := by decide
  digits := List.forall_mem_singleton.mpr rfl
  leading := .inl rfl

theorem spelledBy_zero : SpelledBy ⟨0, -1⟩ ['0', '.', '0'] ['0'] ['0'] none where
  isWhole := isWhole_zero
  placeDigits := List.forall_mem_singleton.mpr rfl
  floating := .inl (by decide)
  text_eq := rfl
  value := rfl

/-- A decimal has these digits, of which the first is not zero. -/
structure HasDigits (d : Decimal) (c : Char) (rest : List Char) : Prop where
  nonzero : c ≠ '0'
  digits : ∀ x ∈ c :: rest, x.isDigit = true
  value : digitsValue (c :: rest) = d.digits

theorem exists_hasDigits {d : Decimal} (hd : d.digits ≠ 0) :
    ∃ c rest, decimalDigits d.digits = c :: rest ∧ d.HasDigits c rest := by
  have whole := isWhole_decimalDigits d.digits
  have first := head?_decimalDigits hd
  have value := digitsValue_decimalDigits d.digits
  obtain ⟨c, rest, split⟩ := List.exists_cons_of_ne_nil whole.nonempty
  rw [split] at first value
  refine ⟨c, rest, split, ?_, ?_, value⟩
  · rintro rfl
    exact first rfl
  · rw [← split]
    exact whole.digits

section

variable {d : Decimal} {c : Char} {rest : List Char} (h : d.HasDigits c rest)

include h

theorem HasDigits.spelledBy_power {e : Int} (leading : e = d.exponent + rest.length) :
    SpelledBy (d.padded 0) (c :: pointText rest ++ exponentText e) [c] rest (some e) where
  isWhole := ⟨List.cons_ne_nil _ _, List.forall_mem_singleton.mpr (h.digits c List.mem_cons_self),
    .inr (by simpa using h.nonzero)⟩
  placeDigits x hx := h.digits x (List.mem_cons_of_mem _ hx)
  floating := .inr rfl
  text_eq := by simp [powerText]
  value := by
    simp only [ofParts, padded, List.cons_append, List.nil_append, h.value, Option.getD_some,
      mk.injEq]
    refine ⟨by omega, ?_⟩
    push_cast
    omega

theorem HasDigits.spelledBy_zeros (large : 0 ≤ d.exponent) :
    SpelledBy (d.padded (d.exponent.toNat + 1))
      (c :: rest ++ List.replicate d.exponent.toNat '0' ++ ['.', '0'])
      (c :: rest ++ List.replicate d.exponent.toNat '0') ['0'] none where
  isWhole := by
    refine ⟨List.cons_ne_nil _ _, fun x hx => ?_, .inr (by simpa using h.nonzero)⟩
    rcases List.mem_append.mp hx with digit | zero
    · exact h.digits x digit
    · rw [List.eq_of_mem_replicate zero]
      rfl
  placeDigits := List.forall_mem_singleton.mpr rfl
  floating := .inl (by decide)
  text_eq := by simp [pointText, powerText]
  value := by
    have zeros : List.replicate d.exponent.toNat '0' ++ ['0'] =
        List.replicate (d.exponent.toNat + 1) '0' := List.replicate_succ'.symm
    simp only [ofParts, padded, List.append_assoc, zeros, digitsValue_append_zeros, h.value,
      Option.getD_none, mk.injEq, List.length_singleton]
    refine ⟨trivial, ?_⟩
    push_cast
    omega

theorem HasDigits.spelledBy_point {k : Nat} (place : (k : Int) = d.exponent + rest.length)
    (small : d.exponent < 0) :
    SpelledBy (d.padded 0) ((c :: rest).take (k + 1) ++ '.' :: (c :: rest).drop (k + 1))
      ((c :: rest).take (k + 1)) ((c :: rest).drop (k + 1)) none where
  isWhole := ⟨by simp, fun x hx => h.digits x (List.mem_of_mem_take hx),
    .inr (by simpa using h.nonzero)⟩
  placeDigits x hx := h.digits x (List.mem_of_mem_drop hx)
  floating := by
    refine .inl fun none => ?_
    have short := List.drop_eq_nil_iff.mp none
    rw [List.length_cons] at short
    omega
  text_eq := by
    have long : ¬ rest.length ≤ k := by omega
    simp [pointText, powerText, long]
  value := by
    simp only [ofParts, padded, List.take_append_drop, h.value, Option.getD_none, mk.injEq,
      List.length_drop, List.length_cons]
    refine ⟨by omega, ?_⟩
    omega

theorem HasDigits.spelledBy_places {k : Nat} (zeros : -(k : Int) - 1 = d.exponent + rest.length) :
    SpelledBy (d.padded 0) ('0' :: '.' :: List.replicate k '0' ++ c :: rest) ['0']
      (List.replicate k '0' ++ c :: rest) none where
  isWhole := isWhole_zero
  placeDigits x hx := by
    rcases List.mem_append.mp hx with zero | digit
    · rw [List.eq_of_mem_replicate zero]
      rfl
    · exact h.digits x digit
  floating := .inl (by simp)
  text_eq := by simp [pointText, powerText]
  value := by
    have leading := digitsValue_zeros_append (k + 1) (c :: rest)
    rw [List.replicate_succ, List.cons_append] at leading
    simp only [ofParts, padded, List.cons_append, List.nil_append, leading, h.value,
      Option.getD_none, mk.injEq, List.length_append, List.length_replicate, List.length_cons]
    refine ⟨by omega, ?_⟩
    push_cast
    omega

end

/-- A decimal that is not zero is written as itself, or with zeros that fill it up to its point. -/
theorem spelledBy_text {d : Decimal} (hd : d.digits ≠ 0) :
    ∃ k whole places power, SpelledBy (d.padded k) (d.text plain) whole places power := by
  obtain ⟨c, rest, written, h⟩ := exists_hasDigits hd
  simp only [text, if_neg hd, written, List.length_cons]
  split
  · refine ⟨0, [c], rest, some (d.exponent + (rest.length + 1 : Nat) - 1), ?_⟩
    have spelled := h.spelledBy_power (e := d.exponent + (rest.length + 1 : Nat) - 1) (by omega)
    cases rest <;> exact spelled
  · split
    · next large => exact ⟨_, _, _, _, h.spelledBy_zeros large⟩
    · split
      · next small _ =>
        exact ⟨_, _, _, _, h.spelledBy_point (by omega) (not_le.mp small)⟩
      · exact ⟨_, _, _, _, h.spelledBy_places (by omega)⟩

end Decimal

namespace Json

/-- Whether a text cannot continue a number that stands in front of it. -/
def EndsNumber (rest : List Char) : Prop :=
  ∀ c ∈ rest.head?, c.isDigit = false ∧ c ≠ '.' ∧ c ≠ 'e' ∧ c ≠ 'E'

theorem takeDigits_append {ds rest : List Char} (digits : ∀ c ∈ ds, c.isDigit = true)
    (stops : ∀ c ∈ rest.head?, c.isDigit = false) :
    (ds ++ rest).takeWhile Char.isDigit = ds := by
  rw [List.takeWhile_append_of_pos digits]
  cases rest with
  | nil => simp
  | cons c rest => simp [stops c rfl]

theorem dropDigits_append {ds rest : List Char} (digits : ∀ c ∈ ds, c.isDigit = true)
    (stops : ∀ c ∈ rest.head?, c.isDigit = false) :
    (ds ++ rest).dropWhile Char.isDigit = rest := by
  rw [List.dropWhile_append_of_pos digits]
  cases rest with
  | nil => simp
  | cons c rest => simp [stops c rfl]

theorem spanDigits_append {ds rest : List Char} (digits : ∀ c ∈ ds, c.isDigit = true)
    (stops : ∀ c ∈ rest.head?, c.isDigit = false) :
    (ds ++ rest).span Char.isDigit = (ds, rest) := by
  rw [List.span_eq_takeWhile_dropWhile, takeDigits_append digits stops,
    dropDigits_append digits stops]

theorem readWhole?_append {ds rest : List Char} (whole : IsWhole ds)
    (stops : ∀ c ∈ rest.head?, c.isDigit = false) : readWhole? (ds ++ rest) = some (ds, rest) := by
  have spanned := spanDigits_append whole.digits stops
  obtain ⟨c, cs, rfl⟩ := List.exists_cons_of_ne_nil whole.nonempty
  have first : c.isDigit = true := whole.digits c (by simp)
  rw [List.cons_append] at spanned ⊢
  rw [readWhole?]
  by_cases zero : c = '0'
  · have alone : cs = [] := by
      rcases whole.leading with h | h
      · injection h
      · exact absurd (by simp [zero]) h
    simp [zero, alone]
  · rw [if_neg zero, if_pos first, spanned]

theorem readFraction?_append {places rest : List Char} (digits : ∀ c ∈ places, c.isDigit = true)
    (stops : ∀ c ∈ rest.head?, c.isDigit = false ∧ c ≠ '.') :
    readFraction? (pointText places ++ rest) =
      if places.isEmpty then none else some (places, rest) := by
  cases places with
  | nil =>
    cases rest with
    | nil => rfl
    | cons c rest =>
      have notPoint : c ≠ '.' := (stops c rfl).2
      show readFraction? (c :: rest) = none
      unfold readFraction?
      split
      · next h => injection h with h; exact absurd h notPoint
      · rfl
  | cons c places =>
    have first : c.isDigit = true := digits c (by simp)
    have spanned := spanDigits_append digits fun x hx => (stops x hx).1
    show readFraction? ('.' :: c :: (places ++ rest)) = some (c :: places, rest)
    rw [readFraction?, if_pos first, ← List.cons_append, spanned]

/-- The digits of an exponent, of which there are at least two. -/
theorem exponentText_eq (e : Int) : ∃ ds, ds ≠ [] ∧ (∀ c ∈ ds, c.isDigit = true) ∧
    digitsValue ds = e.natAbs ∧
    Decimal.exponentText e = 'e' :: (if e < 0 then '-' else '+') :: ds := by
  have value := digitsValue_decimalDigits e.natAbs
  have digits : ∀ c ∈ decimalDigits e.natAbs, c.isDigit = true :=
    fun c hc => isDigit_of_mem_decimalDigits hc
  by_cases short : (decimalDigits e.natAbs).length < 2
  · refine ⟨'0' :: decimalDigits e.natAbs, by simp, ?_,
      (digitsValue_zeros_append 1 _).trans value, by simp only [Decimal.exponentText, if_pos short]⟩
    intro c hc
    rcases List.mem_cons.mp hc with rfl | hc
    · decide
    · exact digits c hc
  · exact ⟨decimalDigits e.natAbs, decimalDigits_ne_nil _, digits, value,
      by simp only [Decimal.exponentText, if_neg short]⟩

theorem readSigned?_append {ds rest : List Char} (negative : Bool) (nonempty : ds ≠ [])
    (digits : ∀ c ∈ ds, c.isDigit = true) (stops : ∀ c ∈ rest.head?, c.isDigit = false) :
    readSigned? ((if negative then '-' else '+') :: (ds ++ rest)) =
      some (if negative then -(digitsValue ds : Int) else digitsValue ds, rest) := by
  obtain ⟨c, cs, rfl⟩ := List.exists_cons_of_ne_nil nonempty
  cases negative <;>
    simp only [readSigned?, takeDigits_append digits stops, dropDigits_append digits stops,
      if_true, if_false, Bool.false_eq_true]

theorem readExponent?_append (power : Option Int) {rest : List Char}
    (stops : ∀ c ∈ rest.head?, c.isDigit = false ∧ c ≠ 'e' ∧ c ≠ 'E') :
    readExponent? (powerText power ++ rest) = power.map fun e => (e, rest) := by
  cases power with
  | none =>
    cases rest with
    | nil => rfl
    | cons c rest =>
      have letter := (stops c rfl).2
      simp [powerText, readExponent?, letter]
  | some e =>
    obtain ⟨ds, nonempty, digits, value, text⟩ := exponentText_eq e
    have signed := readSigned?_append (decide (e < 0)) nonempty digits fun c hc => (stops c hc).1
    simp only [decide_eq_true_eq, value] at signed
    simp only [powerText, text, List.cons_append, readExponent?, true_or, if_true, signed,
      Option.map_some, Option.some.injEq, Prod.mk.injEq, and_true]
    split <;> omega

/-- A number in the form of a floating point number is read as the decimal that it spells. -/
theorem readUnsigned?_of_spelledBy (negative : Bool) {d : Decimal} {text whole places : List Char}
    {power : Option Int} (spelled : d.SpelledBy text whole places power) {rest : List Char}
    (stops : EndsNumber rest) :
    readUnsigned? negative (text ++ rest) = some (.float (d.toBinary64 negative), rest) := by
  have power_head : ∀ c ∈ (powerText power ++ rest).head?, c.isDigit = false ∧ c ≠ '.' := by
    cases power with
    | none => exact fun c hc => ⟨(stops c hc).1, (stops c hc).2.1⟩
    | some e =>
      intro c hc
      obtain rfl : 'e' = c := by simpa [powerText, Decimal.exponentText] using hc
      decide
  have point_head : ∀ c ∈ (pointText places ++ (powerText power ++ rest)).head?,
      c.isDigit = false := by
    cases places with
    | nil => exact fun c hc => (power_head c hc).1
    | cons x xs =>
      intro c hc
      obtain rfl : '.' = c := by simpa [pointText] using hc
      decide
  have exponent : readExponent? (powerText power ++ rest) = power.map fun e => (e, rest) :=
    readExponent?_append power fun c hc => ⟨(stops c hc).1, (stops c hc).2.2⟩
  rw [spelled.text_eq, List.append_assoc, List.append_assoc]
  simp only [readUnsigned?, readWhole?_append spelled.isWhole point_head,
    readFraction?_append spelled.placeDigits power_head]
  rw [← spelled.value]
  rcases spelled.floating with some_places | some_power
  · have : places.isEmpty = false := by simpa using some_places
    simp only [this, Bool.false_eq_true, if_false, Option.map_some, Option.getD_some, exponent,
      Option.isNone_some, Bool.false_and, Decimal.ofParts]
    cases power <;> rfl
  · obtain ⟨e, rfl⟩ := Option.isSome_iff_exists.mp some_power
    cases places with
    | nil =>
      simp only [pointText, List.isEmpty_nil, if_true, Option.map_none, Option.getD_none,
        List.nil_append, exponent, Option.map_some, Option.getD_some, Option.isNone_none,
        Option.isNone_some, Bool.and_false, Bool.false_eq_true, if_false, Decimal.ofParts]
    | cons x xs =>
      simp only [List.isEmpty_cons, Bool.false_eq_true, if_false, exponent, Option.map_some,
        Option.getD_some, Option.isNone_some, Bool.and_false, Decimal.ofParts]

theorem readUnsigned?_whole (negative : Bool) {ds rest : List Char} (whole : IsWhole ds)
    (stops : EndsNumber rest) : readUnsigned? negative (ds ++ rest) =
      some (.int (if negative then -(digitsValue ds : Int) else digitsValue ds), rest) := by
  have fraction : readFraction? (pointText [] ++ rest) = none :=
    readFraction?_append (by simp) fun c hc => ⟨(stops c hc).1, (stops c hc).2.1⟩
  rw [pointText, List.isEmpty_nil, if_pos rfl, List.nil_append] at fraction
  have exponent : readExponent? rest = none :=
    readExponent?_append none fun c hc => ⟨(stops c hc).1, (stops c hc).2.2⟩
  simp only [readUnsigned?, readWhole?_append whole fun c hc => (stops c hc).1, fraction, exponent,
    Option.map_none, Option.getD_none, Option.isNone_none, Bool.and_self, if_true]

theorem readNumber?_digit {c : Char} (hc : c.isDigit = true) (text : List Char) :
    readNumber? (c :: text) = readUnsigned? false (c :: text) := by
  unfold readNumber?
  split
  · next h => injection h with h; subst h; exact absurd hc (by decide)
  · rfl

theorem readNumber?_integerText (n : Int) {rest : List Char} (stops : EndsNumber rest) :
    readNumber? (integerText n ++ rest) = some (.int n, rest) := by
  have whole := isWhole_decimalDigits n.natAbs
  have value := digitsValue_decimalDigits n.natAbs
  unfold integerText
  split
  · next negative =>
    rw [List.cons_append, readNumber?, readUnsigned?_whole true whole stops, value]
    simp only [if_true, Option.some.injEq, Prod.mk.injEq, Json.int.injEq, and_true]
    omega
  · next negative =>
    obtain ⟨c, cs, digits⟩ := List.exists_cons_of_ne_nil whole.nonempty
    have first : c.isDigit = true := whole.digits c (by simp [digits])
    have read := readUnsigned?_whole false whole stops
    rw [value] at read
    rw [digits, List.cons_append] at read ⊢
    rw [readNumber?_digit first, read]
    simp only [Bool.false_eq_true, if_false, Option.some.injEq, Prod.mk.injEq, Json.int.injEq,
      and_true]
    omega

/-- The digits of a finite number as they are written after its sign. -/
def unsignedText (m : Nat) (e : Int) (h : CanonicalBinary m e) : List Char :=
  (if m = 0 then ⟨0, 0⟩ else Decimal.shortest m e h).text Decimal.plain

theorem readUnsigned?_unsignedText (negative : Bool) {m : Nat} {e : Int}
    (h : CanonicalBinary m e) {rest : List Char} (stops : EndsNumber rest) :
    readUnsigned? negative (unsignedText m e h ++ rest) =
      some (.float (.finite negative m e h), rest) := by
  unfold unsignedText
  by_cases zero : m = 0
  · have least : e = -1074 := by
      rcases h with ⟨low, _⟩ | ⟨_, least⟩
      · omega
      · exact least
    subst zero least
    rw [if_pos rfl]
    exact readUnsigned?_of_spelledBy negative Decimal.spelledBy_zero stops
  · have nonzero := Decimal.shortest_digits_ne_zero zero h
    obtain ⟨k, whole, places, power, spelled⟩ := Decimal.spelledBy_text nonzero
    rw [if_neg zero, readUnsigned?_of_spelledBy negative spelled stops,
      Decimal.toBinary64_padded negative k nonzero, Decimal.toBinary64_shortest negative zero h]

theorem unsignedText_head {m : Nat} {e : Int} (h : CanonicalBinary m e) :
    ∃ c cs, unsignedText m e h = c :: cs ∧ c.isDigit = true := by
  unfold unsignedText
  by_cases zero : m = 0
  · rw [if_pos zero]
    exact ⟨'0', ['.', '0'], rfl, by decide⟩
  · rw [if_neg zero]
    obtain ⟨k, whole, places, power, spelled⟩ :=
      Decimal.spelledBy_text (Decimal.shortest_digits_ne_zero zero h)
    obtain ⟨c, cs, rfl⟩ := List.exists_cons_of_ne_nil spelled.isWhole.nonempty
    exact ⟨c, cs ++ pointText places ++ powerText power, by simp [spelled.text_eq],
      spelled.isWhole.digits c (by simp)⟩

end Json
end ShareLinks
