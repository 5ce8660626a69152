import ShareLinks.Json.Writing
import ShareLinks.Proofs.Json.Distinct
import ShareLinks.Proofs.Json.Numerals
import ShareLinks.Proofs.Json.Strings

/-!
# Reading back written documents

Reading the text of a document that can be written gives its normal form, in any layout. The
induction is on the document; what is carried along is the text that follows, which cannot continue
a number, and fuel for twice the length of the text that is read.
-/

namespace ShareLinks.Json

theorem readScalar?_null (rest : List Char) :
    readScalar? ("null".toList ++ rest) = some (.null, rest) := rfl

theorem readScalar?_bool (b : Bool) (rest : List Char) :
    readScalar? ((if b then "true" else "false").toList ++ rest) = some (.bool b, rest) := by
  cases b <;> rfl

/-- Whether a text begins with a digit, or with a minus and a digit. -/
def startsNumber : List Char → Bool
  | c :: cs => if c = '-' then cs.head?.any Char.isDigit else c.isDigit
  | [] => false

theorem startsNumber_append {word : List Char} (h : 2 ≤ word.length) (rest : List Char) :
    startsNumber (word ++ rest) = startsNumber word := by
  match word, h with
  | a :: b :: word, _ => simp [startsNumber]

theorem words_not_numbers : ∀ w ∈ words,
    2 ≤ w.1.toList.length ∧ startsNumber w.1.toList = false := by decide

theorem readScalar?_eq_readNumber? {text : List Char} (h : startsNumber text = true) :
    readScalar? text = readNumber? text := by
  have none_of_word : ∀ w ∈ words,
      (dropWord? w.1.toList text).map (fun rest => (w.2, rest)) = none := by
    intro w hw
    obtain ⟨long, notNumber⟩ := words_not_numbers w hw
    rw [dropWord?, if_neg, Option.map_none]
    intro isPrefix
    obtain ⟨rest, rfl⟩ := List.isPrefixOf_iff_prefix.mp isPrefix
    rw [startsNumber_append long, notNumber] at h
    cases h
  have none_of_words := List.findSome?_eq_none_iff.mpr none_of_word
  simp only [readScalar?, none_of_words, Option.none_or]

theorem startsNumber_digit {c : Char} (hc : c.isDigit = true) (text : List Char) :
    startsNumber (c :: text) = true := by
  have : c ≠ '-' := by
    rintro rfl
    revert hc
    decide
  rw [startsNumber, if_neg this, hc]

theorem startsNumber_integerText (n : Int) (rest : List Char) :
    startsNumber (integerText n ++ rest) = true := by
  have whole := isWhole_decimalDigits n.natAbs
  obtain ⟨c, cs, digits⟩ := List.exists_cons_of_ne_nil whole.nonempty
  have first : c.isDigit = true := whole.digits c (by simp [digits])
  unfold integerText
  split
  · rw [digits]
    simpa [startsNumber] using first
  · rw [digits]
    exact startsNumber_digit first _

theorem readScalar?_int (n : Int) {rest : List Char} (stops : EndsNumber rest) :
    readScalar? (integerText n ++ rest) = some (.int n, rest) := by
  rw [readScalar?_eq_readNumber? (startsNumber_integerText n rest), readNumber?_integerText n stops]

theorem readScalar?_float (x : Binary64) {rest : List Char} (stops : EndsNumber rest) :
    readScalar? (x.text numberWords ++ rest) = some (.float x, rest) := by
  cases x with
  | nan => rfl
  | infinity negative => cases negative <;> rfl
  | finite negative m e h =>
    obtain ⟨c, cs, text, first⟩ := unsignedText_head h
    have read := readUnsigned?_unsignedText negative h stops
    cases negative with
    | false =>
      show readScalar? (unsignedText m e h ++ rest) = _
      rw [text, List.cons_append] at read ⊢
      rw [readScalar?_eq_readNumber? (startsNumber_digit first _), readNumber?_digit first, read]
    | true =>
      show readScalar? ('-' :: (unsignedText m e h ++ rest)) = _
      rw [text, List.cons_append] at read ⊢
      have starts : startsNumber ('-' :: (c :: (cs ++ rest))) = true := by
        simpa [startsNumber] using first
      rw [readScalar?_eq_readNumber? starts, readNumber?, read]

theorem readValue_scalar {fuel : Nat} {text : List Char} {value : Json} {rest : List Char}
    (writable : value.isWritable = true) (read : readScalar? text = some (value, rest)) :
    readValue (fuel + 1) text = .ok (value, rest) := by
  have accepted : accept value rest = .ok (value, rest) := by
    cases value with
    | int n => exact if_pos writable
    | _ => rfl
  unfold readValue
  split
  · cases read
  · cases read
  · cases read
  · rw [read]
    exact accepted

theorem isSpace_lineBreak (style : Style) (depth : Nat) :
    ∀ c ∈ style.lineBreak depth, isSpace c = true := by
  intro c hc
  unfold Style.lineBreak at hc
  split at hc
  · rcases List.mem_cons.mp hc with rfl | hc
    · decide
    · rw [List.eq_of_mem_replicate hc]; decide
  · cases hc

theorem separator_eq (style : Style) (depth : Nat) :
    ∃ gap, style.separator depth = ',' :: gap ∧ ∀ c ∈ gap, isSpace c = true := by
  unfold Style.separator
  split
  · exact ⟨_, rfl, isSpace_lineBreak style depth⟩
  · exact ⟨[' '], rfl, List.forall_mem_singleton.mpr rfl⟩

/-- Blanks in front of something that is not blank are skipped, and nothing else. -/
theorem skipSpace_append {gap : List Char} (blank : ∀ c ∈ gap, isSpace c = true) {c : Char}
    (hc : isSpace c = false) (rest : List Char) : skipSpace (gap ++ c :: rest) = c :: rest := by
  rw [skipSpace, List.dropWhile_append_of_pos blank, List.dropWhile_cons, hc]
  rfl

/-- The first character of a value: no blank, and nothing that closes a container. -/
structure BeginsValue (c : Char) : Prop where
  notSpace : isSpace c = false
  notBracket : c ≠ ']'
  notBrace : c ≠ '\x7d'
  notMark : c ≠ '\ufeff'

theorem beginsValue_of_digit {c : Char} (hc : c.isDigit = true) : BeginsValue c := by
  have ne : ∀ d : Char, d.isDigit = false → c ≠ d := by
    rintro d hd rfl
    rw [hc] at hd
    cases hd
  refine ⟨?_, ne _ (by decide), ne _ (by decide), ne _ (by decide)⟩
  simp [isSpace, ne ' ' (by decide), ne '\t' (by decide), ne '\n' (by decide), ne '\r' (by decide)]

theorem textAt_head (style : Style) (depth : Nat) (value : Json) :
    ∃ c cs, textAt style depth value = c :: cs ∧ BeginsValue c := by
  have given (c : Char) (cs : List Char) (h : BeginsValue c) :
      ∃ d ds, c :: cs = d :: ds ∧ BeginsValue d := ⟨c, cs, rfl, h⟩
  match value with
  | .null => exact given 'n' _ (by constructor <;> decide)
  | .bool true => exact given 't' _ (by constructor <;> decide)
  | .bool false => exact given 'f' _ (by constructor <;> decide)
  | .string s => exact given '"' _ (by constructor <;> decide)
  | .array [] => exact given '[' _ (by constructor <;> decide)
  | .array (item :: items) =>
    rw [textAt]; exact given '[' _ (by constructor <;> decide)
  | .object [] => exact given '\x7b' _ (by constructor <;> decide)
  | .object ((name, value) :: fields) =>
    rw [textAt]; exact given '\x7b' _ (by constructor <;> decide)
  | .int n =>
    have whole := isWhole_decimalDigits n.natAbs
    obtain ⟨c, cs, digits⟩ := List.exists_cons_of_ne_nil whole.nonempty
    have first : c.isDigit = true := whole.digits c (by simp [digits])
    rw [textAt, integerText, digits]
    split
    · exact given '-' _ (by constructor <;> decide)
    · exact given c _ (beginsValue_of_digit first)
  | .float .nan => exact given 'N' _ (by constructor <;> decide)
  | .float (.infinity true) => exact given '-' _ (by constructor <;> decide)
  | .float (.infinity false) => exact given 'I' _ (by constructor <;> decide)
  | .float (.finite true m e h) => exact given '-' _ (by constructor <;> decide)
  | .float (.finite false m e h) =>
    obtain ⟨c, cs, text, first⟩ := unsignedText_head h
    exact ⟨c, cs, text, beginsValue_of_digit first⟩

variable {fuel : Nat} {gap rest : List Char} {c : Char}

theorem readValue_array (blank : ∀ c ∈ gap, isSpace c = true) (begins : BeginsValue c) :
    readValue (fuel + 1) ('[' :: (gap ++ c :: rest)) = readItems fuel [] (c :: rest) := by
  simp only [readValue, skipSpace_append blank begins.notSpace]
  split
  · next h => exact absurd (List.cons.inj h).1 begins.notBracket
  · rfl

theorem readValue_object (blank : ∀ c ∈ gap, isSpace c = true) :
    readValue (fuel + 1) ('\x7b' :: (gap ++ '"' :: rest)) = readFields fuel [] ('"' :: rest) := by
  simp only [readValue, skipSpace_append blank (show isSpace '"' = false by decide)]
  rfl

theorem readItems_last {done : List Json} {text : List Char} {value : Json}
    (read : readValue fuel text = .ok (value, gap ++ ']' :: rest))
    (blank : ∀ c ∈ gap, isSpace c = true) :
    readItems (fuel + 1) done text = .ok (.array (value :: done).reverse, rest) := by
  simp only [readItems, read, skipSpace_append blank (show isSpace ']' = false by decide)]

theorem readItems_more {done : List Json} {text : List Char} {value : Json}
    (read : readValue fuel text = .ok (value, ',' :: (gap ++ c :: rest)))
    (blank : ∀ c ∈ gap, isSpace c = true) (begins : BeginsValue c) :
    readItems (fuel + 1) done text = readItems fuel (value :: done) (c :: rest) := by
  have comma : skipSpace (',' :: (gap ++ c :: rest)) = ',' :: (gap ++ c :: rest) := rfl
  simp only [readItems, read, comma, skipSpace_append blank begins.notSpace]

theorem readFields_step (ascii : Bool) (done : Fields) (name : String)
    (enough : (stringText ascii name).length ≤ fuel) (begins : BeginsValue c) :
    readFields (fuel + 1) done (stringText ascii name ++ (':' :: ' ' :: c :: rest)) =
      match readValue fuel (c :: rest) with
      | .error failure => .error failure
      | .ok (value, rest) =>
        match skipSpace rest with
        | '\x7d' :: rest => .ok (.object (done.put name value), rest)
        | ',' :: rest => readFields fuel (done.put name value) (skipSpace rest)
        | rest => .error (.malformed .comma rest) := by
  have string := readString_stringText ascii name (':' :: ' ' :: c :: rest) enough
  have colon : skipSpace (':' :: ' ' :: c :: rest) = ':' :: ' ' :: c :: rest := rfl
  have space : ∀ d ∈ [' '], isSpace d = true := List.forall_mem_singleton.mpr rfl
  have blank : skipSpace (' ' :: c :: rest) = c :: rest :=
    skipSpace_append space begins.notSpace rest
  obtain ⟨tail, quoted⟩ : ∃ tail, stringText ascii name = '"' :: tail := ⟨_, rfl⟩
  rw [quoted] at string ⊢
  simp only [readFields, List.cons_append] at string ⊢
  simp only [string, colon]
  rewrite [blank]
  rfl

/-- What follows a value inside a container does not continue a number. -/
theorem endsNumber_cons {c : Char} {rest : List Char} (hc : c.isDigit = false ∧ c ≠ '.' ∧
    c ≠ 'e' ∧ c ≠ 'E') : EndsNumber (c :: rest) := by
  intro d hd
  rw [List.head?_cons, Option.mem_some_iff] at hd
  rwa [← hd]

theorem endsNumber_gap {gap : List Char} (blank : ∀ c ∈ gap, isSpace c = true) {c : Char}
    (hc : c.isDigit = false ∧ c ≠ '.' ∧ c ≠ 'e' ∧ c ≠ 'E') (rest : List Char) :
    EndsNumber (gap ++ c :: rest) := by
  cases gap with
  | nil => exact endsNumber_cons hc
  | cons d gap =>
    have space := blank d List.mem_cons_self
    simp only [isSpace, Bool.or_eq_true, beq_iff_eq] at space
    refine endsNumber_cons ?_
    rcases space with ((rfl | rfl) | rfl) | rfl <;> decide

mutual

theorem readValue_textAt (style : Style) : ∀ (depth : Nat) (value : Json) (fuel : Nat)
    (rest : List Char), EndsNumber rest → value.isWritable = true →
      2 * (textAt style depth value).length ≤ fuel →
      readValue fuel (textAt style depth value ++ rest) = .ok (value.normal, rest)
  | depth, value, 0, rest, stops, _, enough => by
    obtain ⟨c, cs, text, -⟩ := textAt_head style depth value
    rw [text, List.length_cons] at enough
    omega
  | depth, .null, fuel + 1, rest, _, _, _ => readValue_scalar rfl (readScalar?_null rest)
  | depth, .bool b, fuel + 1, rest, _, _, _ => readValue_scalar rfl (readScalar?_bool b rest)
  | depth, .int n, fuel + 1, rest, stops, writable, _ =>
    readValue_scalar writable (readScalar?_int n stops)
  | depth, .float x, fuel + 1, rest, stops, _, _ => readValue_scalar rfl (readScalar?_float x stops)
  | depth, .string s, fuel + 1, rest, stops, _, enough => by
    rw [textAt] at enough ⊢
    have string := readString_stringText style.ascii s rest (show _ ≤ fuel by omega)
    obtain ⟨tail, quoted⟩ : ∃ tail, stringText style.ascii s = '"' :: tail := ⟨_, rfl⟩
    rw [quoted, List.cons_append] at string ⊢
    simp only [readValue, string]
    rfl
  | depth, .array [], fuel + 1, rest, _, _, _ => rfl
  | depth, .array (item :: items), fuel + 1, rest, stops, writable, enough => by
    have gap := isSpace_lineBreak style
    obtain ⟨c, cs, text, begins⟩ := textAt_head style (depth + 1) item
    have read := readItems_textAt style (depth + 1) item items fuel [] _ rest (gap depth) writable
      (by
        simp only [textAt, List.cons_append, List.length_cons, List.length_append] at enough ⊢
        omega)
    rw [normal, ← List.nil_append (normalItems _), ← List.reverse_nil, ← read, text, textAt, text]
    simpa only [List.cons_append, List.append_assoc, List.nil_append] using
      readValue_array (gap (depth + 1)) begins
  | depth, .object [], fuel + 1, rest, _, _, _ => rfl
  | depth, .object ((name, value) :: fields), fuel + 1, rest, stops, writable, enough => by
    have gap := isSpace_lineBreak style
    have read := readFields_textAt style (depth + 1) name value fields fuel [] _ rest (gap depth)
      writable (by
        simp only [textAt, List.cons_append, List.length_cons, List.length_append] at enough ⊢
        omega)
    obtain ⟨tail, quoted⟩ : ∃ tail, stringText style.ascii name = '"' :: tail := ⟨_, rfl⟩
    rw [normal, ← read, textAt, quoted]
    simpa only [List.cons_append, List.append_assoc, List.nil_append] using
      readValue_object (gap (depth + 1))

theorem readItems_textAt (style : Style) (depth : Nat) : ∀ (item : Json) (items : List Json)
    (fuel : Nat) (done : List Json) (gap rest : List Char), (∀ c ∈ gap, isSpace c = true) →
      areWritable (item :: items) = true →
      2 * (textAt style depth item ++ itemsText style depth items).length < fuel →
      readItems fuel done (textAt style depth item ++ itemsText style depth items ++ gap ++
        ']' :: rest) = .ok (.array (done.reverse ++ normalItems (item :: items)), rest)
  | _, _, 0, _, _, _, _, _, enough => absurd enough (by omega)
  | item, [], fuel + 1, done, gap, rest, blank, writable, enough => by
    rw [areWritable, Bool.and_eq_true] at writable
    rw [itemsText, List.append_nil] at enough ⊢
    have value := readValue_textAt style depth item fuel _
      (endsNumber_gap blank (c := ']') (by decide) rest) writable.1 (by omega)
    rw [List.append_assoc, readItems_last value blank, List.reverse_cons, normalItems, normalItems]
  | item, next :: items, fuel + 1, done, gap, rest, blank, writable, enough => by
    rw [areWritable, Bool.and_eq_true] at writable
    obtain ⟨space, separator, isSpace⟩ := separator_eq style depth
    obtain ⟨c, cs, text, begins⟩ := textAt_head style depth next
    rw [itemsText, separator] at enough ⊢
    simp only [List.length_append, List.length_cons] at enough
    have value := readValue_textAt style depth item fuel (',' :: (space ++
      (textAt style depth next ++ itemsText style depth items ++ gap ++ ']' :: rest)))
      (endsNumber_cons (by decide)) writable.1 (by omega)
    have others := readItems_textAt style depth next items fuel (item.normal :: done) gap rest
      blank writable.2 (by rw [List.length_append]; omega)
    have order : done.reverse ++ item.normal :: normalItems (next :: items) =
        (item.normal :: done).reverse ++ normalItems (next :: items) := by
      rw [List.reverse_cons, List.append_assoc, List.singleton_append]
    rw [normalItems, order, ← others]
    simp only [text, List.cons_append, List.append_assoc] at value ⊢
    exact readItems_more value isSpace begins

theorem readFields_textAt (style : Style) (depth : Nat) : ∀ (name : String) (value : Json)
    (fields : List (String × Json)) (fuel : Nat) (done : Fields) (gap rest : List Char),
      (∀ c ∈ gap, isSpace c = true) → haveWritable ((name, value) :: fields) = true →
      2 * (stringText style.ascii name ++ [':', ' '] ++ textAt style depth value ++
        fieldsText style depth fields).length < fuel →
      readFields fuel done (stringText style.ascii name ++ [':', ' '] ++
        textAt style depth value ++ fieldsText style depth fields ++ gap ++ '\x7d' :: rest) =
          .ok (.object (normalFields done ((name, value) :: fields)), rest)
  | _, _, _, 0, _, _, _, _, _, enough => absurd enough (by omega)
  | name, value, [], fuel + 1, done, gap, rest, blank, writable, enough => by
    rw [haveWritable, Bool.and_eq_true] at writable
    obtain ⟨c, cs, text, begins⟩ := textAt_head style depth value
    rw [fieldsText, List.append_nil] at enough ⊢
    simp only [List.length_append, List.length_cons] at enough
    have read := readValue_textAt style depth value fuel _
      (endsNumber_gap blank (c := '\x7d') (by decide) rest) writable.1 (by omega)
    have brace : skipSpace (gap ++ '\x7d' :: rest) = '\x7d' :: rest :=
      skipSpace_append blank (by decide) rest
    simp only [text, List.cons_append, List.append_assoc, List.nil_append] at read ⊢
    rw [readFields_step style.ascii done name (by omega) begins]
    simp only [read, brace, normalFields]
  | name, value, (other, next) :: fields, fuel + 1, done, gap, rest, blank, writable, enough => by
    rw [haveWritable, Bool.and_eq_true] at writable
    obtain ⟨space, separator, isSpace⟩ := separator_eq style depth
    obtain ⟨c, cs, text, begins⟩ := textAt_head style depth value
    obtain ⟨tail, quoted⟩ : ∃ tail, stringText style.ascii other = '"' :: tail := ⟨_, rfl⟩
    rw [fieldsText, separator] at enough ⊢
    simp only [List.length_append, List.length_cons] at enough
    have read := readValue_textAt style depth value fuel (',' :: (space ++
      (stringText style.ascii other ++ [':', ' '] ++ textAt style depth next ++
        fieldsText style depth fields ++ gap ++ '\x7d' :: rest)))
      (endsNumber_cons (by decide)) writable.1 (by omega)
    have others := readFields_textAt style depth other next fields fuel
      (done.put name value.normal) gap rest blank writable.2
      (by simp only [List.length_append, List.length_cons]; omega)
    rw [normalFields, ← others]
    simp only [text, quoted, List.cons_append, List.append_assoc, List.nil_append] at read ⊢
    rw [readFields_step style.ascii done name (by omega) begins]
    have comma (text : List Char) : skipSpace (',' :: text) = ',' :: text := rfl
    simp only [read, comma, skipSpace_append isSpace (show Json.isSpace '"' = false by decide)]

end

theorem readDocument_text (style : Style) {value : Json} (writable : value.isWritable = true) :
    readDocument (value.text style) = .ok value.normal := by
  obtain ⟨c, cs, text, begins⟩ := textAt_head style 0 value
  have read : readValue (2 * (value.text style).length + 1) (value.text style) =
      .ok (value.normal, []) := by
    have read := readValue_textAt style 0 value (2 * (value.text style).length + 1) []
      (fun _ h => by cases h) writable (by rw [Json.text]; omega)
    rwa [List.append_nil] at read
  have skip : skipSpace (value.text style) = value.text style := by
    rw [Json.text, text]
    rw [skipSpace, List.dropWhile_cons, begins.notSpace]
    rfl
  unfold readDocument
  split
  · next mark =>
    rw [Json.text, text] at mark
    exact absurd (List.cons.inj mark).1 begins.notMark
  · rw [skip, read]
    rfl

/-- What is read is read the same where the halves of surrogate pairs are passed over. -/
theorem readMended_eq_ok_iff {fuel : Nat} {text : List Char} {value : Json} :
    readMended fuel text = .ok value ↔ readDocument text = .ok value := by
  unfold readMended
  split
  · next fuel rest alone =>
    rw [alone]
    refine iff_of_false (fun read => ?_) (fun read => by cases read)
    split at read <;> cases read
  · rfl

theorem parse_eq_ok_iff {text : List Char} {value : Json} :
    parse text = .ok value ↔ readDocument text = .ok value := by
  have mended : readMended text.length text = .ok value ↔ _ := readMended_eq_ok_iff
  rw [parse, ← mended]
  cases readMended text.length text with
  | ok found => rw [Except.ok.injEq, Except.ok.injEq]
  | error failure => exact iff_of_false (fun read => by cases read) (fun read => by cases read)

/-- A document that can be written is read as its normal form, whatever its layout. -/
theorem parse_text (style : Style) {value : Json} (writable : value.isWritable = true) :
    parse (value.text style) = .ok value.normal :=
  parse_eq_ok_iff.mpr (readDocument_text style writable)

theorem parse_write {style : Style} {value : Json} {text : String}
    (written : value.write style = .ok text) : parse text.toList = .ok value.normal := by
  obtain ⟨writable, rfl⟩ := (write_eq_ok_iff style value text).mp written
  rw [render, String.toList_ofList]
  exact parse_text style writable

theorem hasDistinctNames_of_readUnsigned? {negative : Bool} {text rest : List Char} {value : Json}
    (read : readUnsigned? negative text = some (value, rest)) :
    value.hasDistinctNames = true := by
  unfold readUnsigned? at read
  split at read
  · cases read
  · dsimp only at read
    split at read <;> (cases read; rfl)

theorem hasDistinctNames_of_readScalar? {text rest : List Char} {value : Json}
    (read : readScalar? text = some (value, rest)) : value.hasDistinctNames = true := by
  rw [readScalar?, Option.or_eq_some_iff] at read
  rcases read with word | ⟨-, number⟩
  · obtain ⟨word, isWord, read⟩ := List.exists_of_findSome?_eq_some word
    obtain ⟨tail, -, pair⟩ := Option.map_eq_some_iff.mp read
    have scalar : ∀ w ∈ words, w.2.hasDistinctNames = true := by decide
    rw [← (Prod.mk.inj pair).1]
    exact scalar word isWord
  · unfold readNumber? at number
    split at number <;> exact hasDistinctNames_of_readUnsigned? number

theorem of_accept {value found : Json} {rest rest' : List Char}
    (read : accept value rest = .ok (found, rest')) : value = found ∧ rest = rest' := by
  unfold accept at read
  split at read
  · split at read
    · cases read
      exact ⟨rfl, rfl⟩
    · cases read
  · cases read
    exact ⟨rfl, rfl⟩

mutual

theorem hasDistinctNames_of_readValue : ∀ (fuel : Nat) {text rest : List Char} {value : Json},
    readValue fuel text = .ok (value, rest) → value.hasDistinctNames = true
  | 0, _, _, _, read => by cases read
  | fuel + 1, text, rest, value, read => by
    unfold readValue at read
    split at read
    · next tail =>
      cases string : readString fuel ('"' :: tail) with
      | error failure => rw [string] at read; cases read
      | ok pair => rw [string] at read; cases read; rfl
    · split at read
      · cases read; rfl
      · exact hasDistinctNames_of_readItems fuel (fun _ h => by cases h) read
    · split at read
      · cases read; rfl
      · exact hasDistinctNames_of_readFields fuel rfl read
    · split at read
      · next scalar =>
        rw [← (of_accept read).1]
        exact hasDistinctNames_of_readScalar? scalar
      · cases read

theorem hasDistinctNames_of_readItems : ∀ (fuel : Nat) {done : List Json}
    {text rest : List Char} {value : Json}, (∀ item ∈ done, item.hasDistinctNames = true) →
      readItems fuel done text = .ok (value, rest) → value.hasDistinctNames = true
  | 0, _, _, _, _, _, read => by cases read
  | fuel + 1, done, text, rest, value, distinct, read => by
    unfold readItems at read
    split at read
    · cases read
    · next item _ first =>
      have longer : ∀ other ∈ item :: done, other.hasDistinctNames = true := by
        rintro other (_ | ⟨_, old⟩)
        · exact hasDistinctNames_of_readValue fuel first
        · exact distinct other old
      split at read
      · cases read
        rw [hasDistinctNames_array]
        exact fun other h => longer other (List.mem_reverse.mp h)
      · exact hasDistinctNames_of_readItems fuel longer read
      · cases read

theorem hasDistinctNames_of_readFields : ∀ (fuel : Nat) {done : Fields} {text rest : List Char}
    {value : Json}, (Json.object done).hasDistinctNames = true →
      readFields fuel done text = .ok (value, rest) → value.hasDistinctNames = true
  | 0, _, _, _, _, _, read => by cases read
  | fuel + 1, done, text, rest, value, distinct, read => by
    unfold readFields at read
    split at read
    · split at read
      · cases read
      · split at read
        · split at read
          · cases read
          · next first =>
            have longer (name : String) : (Json.object (done.put name _)).hasDistinctNames = true :=
              hasDistinctNames_put distinct (hasDistinctNames_of_readValue fuel first)
            split at read
            · cases read; exact longer _
            · exact hasDistinctNames_of_readFields fuel (longer _) read
            · cases read
        · cases read
    · cases read

end

theorem hasDistinctNames_of_parse {text : List Char} {value : Json}
    (read : parse text = .ok value) : value.hasDistinctNames = true := by
  have document := parse_eq_ok_iff.mp read
  unfold readDocument at document
  split at document
  · cases document
  · split at document
    · cases document
    · next first =>
      split at document
      · cases document
        exact hasDistinctNames_of_readValue _ first
      · cases document

end ShareLinks.Json
