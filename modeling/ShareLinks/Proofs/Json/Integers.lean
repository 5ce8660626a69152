import ShareLinks.Json.Field
import ShareLinks.Proofs.Sequence

/-!
# Values that are taken for integers

Reading an integer passes over most values of other types, and zero takes their place. Only what
looks like an integer and is none is refused: a number that is not finite, and digits that are no
numeral. All that can go wrong in reading a document is that one of its values is refused in this
way, so a reading is described by the values that it takes for integers, in their order, and by
what it gives if none of them is refused.
-/

namespace ShareLinks

namespace Text

/-- A digit of decimal notation. -/
def isDecimal (c : Char) : Bool :=
  (decimalValue? c).isSome

/-- How digits are refused, with minus signs in front: they have more than one sign, there are too
many of them, or not all of them are decimal. -/
def numeralRefusal? (cs : List Char) : Option Fault :=
  let signs := cs.takeWhile (· == '-')
  let digits := cs.dropWhile (· == '-')
  let leading := (digits.takeWhile isDecimal).length
  if 1 < signs.length then some (.notNumeral (String.ofList cs))
  else if maxDigits < leading then some (.numeralTooLong leading maxDigits)
  else if digits.all isDecimal then none
  else some (.notNumeral (String.ofList cs))

theorem isSome_mapM_decimalValue? (cs : List Char) :
    (cs.mapM decimalValue?).isSome = cs.all isDecimal := by
  induction cs with
  | nil => rfl
  | cons c cs ih =>
    rw [List.mapM_cons, List.all_cons, ← ih, isDecimal]
    cases decimalValue? c <;> cases cs.mapM decimalValue? <;> rfl

/-- Digits are read unless there are too many of them or one is not decimal. -/
theorem readDigits_of_ne_nil {ds : List Char} (some : ds ≠ []) :
    ∃ n, readDigits ds =
      if maxDigits < (ds.takeWhile isDecimal).length then
        .error (.tooLong (ds.takeWhile isDecimal).length)
      else if ds.all isDecimal then .ok n
      else .error .malformed := by
  have nonempty : ds.isEmpty = false := List.isEmpty_eq_false_iff.mpr some
  have decimals := isSome_mapM_decimalValue? ds
  unfold readDigits
  rw [nonempty, ← decimals]
  cases ds.mapM decimalValue? with
  | none => exact ⟨0, rfl⟩
  | some values => exact ⟨_, rfl⟩

theorem readDigits_of_sign (cs : List Char) : readDigits ('-' :: cs) = .error .malformed := by
  have sign : decimalValue? '-' = none := by decide
  have leading : ('-' :: cs).takeWhile (fun c => (decimalValue? c).isSome) = [] := by
    rw [List.takeWhile_cons, sign]
    rfl
  unfold readDigits
  rw [leading, List.mapM_cons, sign]
  rfl

theorem readInteger_of_signs {cs : List Char} (some : cs.dropWhile (· == '-') ≠ []) :
    if 1 < (cs.takeWhile (· == '-')).length then readInteger cs = .error .malformed
    else ∃ f : Nat → Int, readInteger cs = (readDigits (cs.dropWhile (· == '-'))).map f := by
  match cs with
  | [] => exact absurd rfl some
  | c :: cs =>
    by_cases sign : c = '-'
    · subst sign
      match cs with
      | [] => exact absurd rfl some
      | d :: cs =>
        by_cases second : d = '-'
        · subst second
          have twice : 1 < (('-' :: '-' :: cs).takeWhile (· == '-')).length := by simp
          rw [if_pos twice, readInteger, readDigits_of_sign]
          rfl
        · have other : (d == '-') = false := beq_eq_false_iff_ne.mpr second
          have digits : ('-' :: d :: cs).dropWhile (· == '-') = d :: cs := by simp [other]
          have signs : ('-' :: d :: cs).takeWhile (· == '-') = ['-'] := by simp [other]
          rw [signs, digits, if_neg (by simp), readInteger]
          refine ⟨fun n => -(n : Int), ?_⟩
          cases readDigits (d :: cs) <;> rfl
    · have other : (c == '-') = false := beq_eq_false_iff_ne.mpr sign
      have digits : (c :: cs).dropWhile (· == '-') = c :: cs := by simp [other]
      have signs : (c :: cs).takeWhile (· == '-') = [] := by simp [other]
      rw [signs, digits, if_neg (by simp)]
      refine ⟨fun n => (n : Int), ?_⟩
      unfold readInteger
      split
      · next same => exact absurd (List.cons.inj same).1 sign
      · cases readDigits (c :: cs) <;> rfl

end Text

namespace Json

open Text

/-- How a value is refused as an integer, if it is. -/
def refusal? : Json → Option Fault
  | .float .nan => some (.notFinite .nan)
  | .float (.infinity negative) => some (.notFinite (.infinity negative))
  | .string s => if isNumeral (trim s.toList) then numeralRefusal? (trim s.toList) else none
  | _ => none

/-- Whether a value stands for an integer: an integer, a finite number, or a string with a
numeral. -/
def isIntegral : Json → Bool
  | .int _ => true
  | .float (.finite _ _ _ _) => true
  | .string s => isNumeral (trim s.toList) && (numeralRefusal? (trim s.toList)).isNone
  | _ => false

/-- A value where an integer belongs, and null if it stands for none. -/
def integral (value : Json) : Json :=
  if value.isIntegral then value else .null

/-- A reading that takes some values for integers: it is refused as the first of them that is
refused, and gives what the reading of regular values gives if none of them is. The reading of
regular values is never refused. -/
def Absorbs {α : Type} (reading regular : Except Fault α) (values : List Json) : Prop :=
  ∃ a, regular = .ok a ∧ reading = match values.findSome? refusal? with
    | some fault => .error fault
    | none => .ok a

theorem exists_integerOfString? {s : String} (numeral : isNumeral (trim s.toList) = true) :
    ∃ n, integerOfString? s = match numeralRefusal? (trim s.toList) with
      | some fault => .error fault
      | none => .ok (some n) := by
  unfold integerOfString?
  rw [if_pos numeral]
  generalize trim s.toList = cs at numeral
  simp only [isNumeral, Bool.and_eq_true, Bool.not_eq_true', List.isEmpty_eq_false_iff] at numeral
  have signs := readInteger_of_signs numeral.1
  obtain ⟨n, digits⟩ := readDigits_of_ne_nil numeral.1
  unfold numeralRefusal?
  split at signs
  · next twice => exact ⟨0, by rw [if_pos twice, signs]⟩
  · next once =>
    obtain ⟨f, read⟩ := signs
    refine ⟨f n, ?_⟩
    rw [if_neg once, read, digits]
    by_cases tooMany : maxDigits < ((cs.dropWhile (· == '-')).takeWhile isDecimal).length
    · rw [if_pos tooMany, if_pos tooMany]
      rfl
    · rw [if_neg tooMany, if_neg tooMany]
      cases (cs.dropWhile (· == '-')).all isDecimal <;> rfl

variable {α β : Type}

theorem absorbs_pure (a : α) : Absorbs (pure a) (pure a) [] := ⟨a, rfl, rfl⟩

/-- A reading after another takes the values of the first and then its own. -/
theorem Absorbs.bind {x y : Except Fault α} {f g : α → Except Fault β} {values more : List Json}
    (first : Absorbs x y values) (second : ∀ a, Absorbs (f a) (g a) more) :
    Absorbs (x >>= f) (y >>= g) (values ++ more) := by
  obtain ⟨a, regular, reading⟩ := first
  obtain ⟨b, regular', reading'⟩ := second a
  refine ⟨b, by rw [regular]; exact regular', ?_⟩
  rw [reading, List.findSome?_append]
  cases values.findSome? refusal? with
  | some fault => rfl
  | none => exact reading'

theorem Absorbs.map {x y : Except Fault α} {values : List Json} (h : Absorbs x y values)
    (f : α → β) : Absorbs (x >>= fun a => pure (f a)) (y >>= fun a => pure (f a)) values := by
  simpa only [List.append_nil] using h.bind fun a => absorbs_pure (f a)

/-- A list of readings takes the values of each of them, in order. -/
theorem absorbs_mapM {read : Json → Except Fault α} {regular : Json → Json}
    {integers : Json → List Json}
    (each : ∀ value, Absorbs (read value) (read (regular value)) (integers value))
    (values : List Json) :
    Absorbs (values.mapM read) ((values.map regular).mapM read) (values.flatMap integers) := by
  induction values with
  | nil => exact absorbs_pure []
  | cons value values ih =>
    rw [List.map_cons, List.mapM_cons, List.mapM_cons, List.flatMap_cons]
    exact (each value).bind fun a => ih.map (a :: ·)

/-- A reading of a single value is described by what it gives for the value and how it refuses
it. -/
theorem absorbs_singleton {x y : Except Fault α} {value : Json} {a : α} (regular : y = .ok a)
    (reading : x = match value.refusal? with
      | some fault => .error fault
      | none => .ok a) : Absorbs x y [value] :=
  ⟨a, regular, by rw [reading, List.findSome?_singleton]⟩

/-- A string is taken for an integer if there is a numeral in it. -/
theorem absorbs_integerOrZero_string (s : String) :
    Absorbs (Json.string s).integerOrZero (integral (.string s)).integerOrZero [.string s] := by
  by_cases numeral : isNumeral (trim s.toList) = true
  · obtain ⟨n, read⟩ := exists_integerOfString? numeral
    have refusal : (Json.string s).refusal? = numeralRefusal? (trim s.toList) := if_pos numeral
    cases refused : numeralRefusal? (trim s.toList) with
    | none =>
      rw [refused] at read refusal
      have integer : (Json.string s).integerOrZero = .ok n := by
        rw [integerOrZero, integer?, read]
        rfl
      have kept : integral (.string s) = .string s := by
        rw [integral, isIntegral, numeral, refused]
        rfl
      refine absorbs_singleton (by rw [kept, integer]) ?_
      rw [refusal, integer]
    | some fault =>
      rw [refused] at read refusal
      have dropped : integral (.string s) = .null := by
        rw [integral, isIntegral, numeral, refused]
        rfl
      refine absorbs_singleton (a := 0) (by rw [dropped]; rfl) ?_
      rw [refusal, integerOrZero, integer?, read]
      rfl
  · have refusal : (Json.string s).refusal? = none := if_neg numeral
    have passed : integerOfString? s = .ok none := if_neg numeral
    have dropped : integral (.string s) = .null := by
      rw [integral, isIntegral, Bool.eq_false_iff.mpr numeral]
      rfl
    refine absorbs_singleton (a := 0) (by rw [dropped]; rfl) ?_
    rw [refusal, integerOrZero, integer?, passed]
    rfl

example : (Json.string " --80").refusal? = some (.notNumeral "--80") := by decide +kernel

theorem absorbs_integerOrZero (value : Json) :
    Absorbs value.integerOrZero (integral value).integerOrZero [value] := by
  match value with
  | .string s => exact absorbs_integerOrZero_string s
  | .int n => exact ⟨n, rfl, rfl⟩
  | .float (.finite _ _ _ _) => exact ⟨_, rfl, rfl⟩
  | .float .nan | .float (.infinity _) => exact ⟨0, rfl, rfl⟩
  | .null | .bool _ | .array _ | .object _ => exact ⟨0, rfl, rfl⟩

end Json
end ShareLinks
