import ShareLinks.Json.Field
import ShareLinks.Proofs.Json.Search

/-!
# Documents without one of their fields

A field stands at a place of its document, at whatever depth, and the document without the field is
the one with nothing at that place. What is searched for under another name is found at the same
point of the document as before. What is searched for under the name of the field itself changes
only if the field was the first of that name, and then it is the next one that is found.
-/

namespace ShareLinks.Json

/-- A place among the fields of an object, which may be deep inside a document. -/
inductive Place where
  | here (left right : Fields)
  | inField (left : Fields) (name : String) (inner : Place) (right : Fields)
  | inItem (left : List Json) (inner : Place) (right : List Json)

namespace Place

/-- The document with some fields at a place. -/
def fill (fields : Fields) : Place → Json
  | here left right => .object (left ++ (fields ++ right))
  | inField left name inner right => .object (left ++ (name, inner.fill fields) :: right)
  | inItem left inner right => .array (left ++ inner.fill fields :: right)

/-- The value of a field in front of a place: one that the place is not in, or one that it is in. -/
inductive Part where
  | apart (value : Json)
  | around (inner : Place)

/-- The value with some fields at the place. -/
def Part.fill (fields : Fields) : Part → Json
  | apart value => value
  | around inner => inner.fill fields

/-- Fields that a place is not in the value of. -/
def allApart (fields : Fields) : List (String × Part) :=
  fields.map fun (name, value) => (name, .apart value)

/-- The fields at all depths that stand in front of a place. -/
def before : Place → List (String × Part)
  | here left _ => allApart (allFieldsOfFields left)
  | inField left name inner _ =>
    allApart (allFieldsOfFields left) ++ (name, .around inner) :: inner.before
  | inItem left inner _ => allApart (allFieldsOfItems left) ++ inner.before

/-- The fields at all depths that stand behind a place. -/
def after : Place → Fields
  | here _ right => allFieldsOfFields right
  | inField _ _ inner right => inner.after ++ allFieldsOfFields right
  | inItem _ inner right => inner.after ++ allFieldsOfItems right

/-- The place as one in the value of the first field of a name, if that is where it is. -/
def within (name : String) (p : Place) : Option Place :=
  match p.before.lookup name with
  | some (.around inner) => some inner
  | _ => none

theorem map_fill_allApart (fields more : Fields) :
    (allApart fields).map (fun (name, part) => (name, part.fill more)) = fields := by
  rw [allApart, List.map_map]
  exact List.map_id fields

/-- What is put at a place stands between what is in front of it and what is behind it. -/
theorem allFields_fill (fields : Fields) (p : Place) :
    (p.fill fields).allFields =
      p.before.map (fun (name, part) => (name, part.fill fields)) ++
        (allFieldsOfFields fields ++ p.after) := by
  induction p with
  | here left right =>
    rw [fill, allFields, allFieldsOfFields_append, allFieldsOfFields_append, before,
      map_fill_allApart, after]
  | inField left name inner right ih =>
    rw [fill, allFields, allFieldsOfFields_append, allFieldsOfFields, ih, before, List.map_append,
      map_fill_allApart, after]
    simp [Part.fill]
  | inItem left inner right ih =>
    rw [fill, allFields, allFieldsOfItems_append, allFieldsOfItems, ih, before, List.map_append,
      map_fill_allApart, after]
    simp

mutual

theorem exists_place_of_mem (field : String × Json) : ∀ doc : Json,
    field ∈ doc.allFields → ∃ p : Place, p.fill [field] = doc
  | .null, h | .bool _, h | .int _, h | .float _, h | .string _, h => nomatch h
  | .array items, h => by
    obtain ⟨left, p, right, rfl⟩ := exists_place_of_mem_items field items h
    exact ⟨.inItem left p right, rfl⟩
  | .object fields, h => exists_place_of_mem_fields field fields h

theorem exists_place_of_mem_items (field : String × Json) : ∀ items : List Json,
    field ∈ allFieldsOfItems items →
      ∃ left, ∃ p : Place, ∃ right, left ++ p.fill [field] :: right = items
  | [], h => nomatch h
  | item :: items, h => by
    rcases List.mem_append.mp h with inside | later
    · obtain ⟨p, rfl⟩ := exists_place_of_mem field item inside
      exact ⟨[], p, items, rfl⟩
    · obtain ⟨left, p, right, rfl⟩ := exists_place_of_mem_items field items later
      exact ⟨item :: left, p, right, rfl⟩

theorem exists_place_of_mem_fields (field : String × Json) : ∀ fields : List (String × Json),
    field ∈ allFieldsOfFields fields → ∃ p : Place, p.fill [field] = .object fields
  | [], h => nomatch h
  | (name, value) :: fields, h => by
    rcases List.mem_cons.mp h with rfl | h
    · exact ⟨.here [] fields, rfl⟩
    rcases List.mem_append.mp h with inside | later
    · obtain ⟨p, rfl⟩ := exists_place_of_mem field value inside
      exact ⟨.inField [] name p fields, rfl⟩
    · obtain ⟨p, found⟩ := exists_place_of_mem_fields field fields later
      cases p with
      | here left right =>
        cases found
        exact ⟨.here ((name, value) :: left) right, rfl⟩
      | inField left other inner right =>
        cases found
        exact ⟨.inField ((name, value) :: left) other inner right, rfl⟩
      | inItem => cases found

end

/-- Every field of a document has a place, and only the fields of the document have one. -/
theorem mem_allFields_iff (field : String × Json) (doc : Json) :
    field ∈ doc.allFields ↔ ∃ p : Place, p.fill [field] = doc := by
  constructor
  · exact exists_place_of_mem field doc
  · rintro ⟨p, rfl⟩
    rw [allFields_fill, allFieldsOfFields]
    simp

theorem search?_fill (fields : Fields) (p : Place) (name : String) :
    (p.fill fields).search? name =
      ((p.before.lookup name).map (Part.fill fields)).or
        (((allFieldsOfFields fields).lookup name).or (p.after.lookup name)) := by
  rw [search?_eq_lookup, allFields_fill, List.lookup_append, List.lookup_append, lookup_map_value]

theorem search?_fill_nil (p : Place) (name : String) :
    (p.fill []).search? name =
      ((p.before.lookup name).map (Part.fill [])).or (p.after.lookup name) := by
  rw [search?_fill, allFieldsOfFields, List.lookup_nil, Option.none_or]

theorem search?_fill_field {value : Json} (plain : value.allFields = []) (p : Place)
    (key name : String) :
    (p.fill [(key, value)]).search? name =
      ((p.before.lookup name).map (Part.fill [(key, value)])).or
        ((if name = key then some value else none).or (p.after.lookup name)) := by
  have alone : allFieldsOfFields [(key, value)] = [(key, value)] := by
    rw [allFieldsOfFields, plain, allFieldsOfFields, List.append_nil]
  rw [search?_fill, alone, lookup_singleton]

/-- A field of another name leads a search elsewhere only in the value that it is in. -/
theorem search_fill_field_of_ne {value : Json} (plain : value.allFields = []) (p : Place)
    {key name : String} (other : name ≠ key) :
    (∃ q, p.within name = some q ∧ (p.fill [(key, value)]).search name = q.fill [(key, value)] ∧
      (p.fill []).search name = q.fill []) ∨
    (p.within name = none ∧
      (p.fill [(key, value)]).search name = (p.fill []).search name) := by
  rw [search, search, search?_fill_field plain, search?_fill_nil, if_neg other, Option.none_or,
    within]
  cases p.before.lookup name with
  | none => exact .inr ⟨rfl, rfl⟩
  | some part =>
    cases part with
    | apart value => exact .inr ⟨rfl, rfl⟩
    | around q => exact .inl ⟨q, rfl, rfl, rfl⟩

/-- What a reader takes from a value does not depend on the fields of any object in it. -/
def IgnoresFields {α : Type} (read : Json → α) : Prop :=
  ∀ (p : Place) (fields more : Fields), read (p.fill fields) = read (p.fill more)

theorem ignoresFields_string? : IgnoresFields string? := by
  intro p fields more
  cases p <;> rfl

theorem ignoresFields_stringOr (default : String) : IgnoresFields (stringOr default) := by
  intro p fields more
  rw [stringOr, ignoresFields_string? p fields more, stringOr]

theorem ignoresFields_bool? : IgnoresFields bool? := by
  intro p fields more
  cases p <;> rfl

theorem ignoresFields_isObject : IgnoresFields isObject := by
  intro p fields more
  cases p <;> rfl

theorem ignoresFields_strings : IgnoresFields strings := by
  intro p fields more
  cases p with
  | here | inField => rfl
  | inItem left inner right =>
    simp only [fill, strings, items, List.filterMap_append, List.filterMap_cons,
      ignoresFields_string? inner fields more]

section Reading

variable {α : Type} {read : Json → α} {value : Json}

theorem read_field_fill (ignores : IgnoresFields read) (p : Place) {key name : String}
    (other : name ≠ key) :
    read ((p.fill [(key, value)]).field name) = read ((p.fill []).field name) := by
  cases p with
  | here left right =>
    simp only [fill, field, fields, List.lookup_append, lookup_singleton, if_neg other,
      List.lookup_nil]
  | inField left outer inner right =>
    simp only [fill, field, fields, List.lookup_append]
    cases left.lookup name with
    | some found => rfl
    | none =>
      by_cases same : name = outer
      · subst same
        simpa using ignores inner _ _
      · rw [lookup_cons_of_ne same, lookup_cons_of_ne same]
  | inItem => rfl

theorem read_search_fill (ignores : IgnoresFields read) (plain : value.allFields = []) (p : Place)
    {key name : String} (other : name ≠ key) :
    read ((p.fill [(key, value)]).search name) = read ((p.fill []).search name) := by
  rcases search_fill_field_of_ne plain p other with ⟨q, -, found, found'⟩ | ⟨-, same⟩
  · rw [found, found']
    exact ignores q _ _
  · rw [same]

/-- Without a field that is read as nothing the same is read under its name, unless it was the first
of that name and the next one is read as something. -/
theorem read_search_fill_self (ignores : IgnoresFields read) (plain : value.allFields = [])
    (p : Place) (key : String) (nothing : read value = read .null) :
    read ((p.fill []).search key) = read ((p.fill [(key, value)]).search key) ↔
      ¬ (key ∉ p.before.map (·.1) ∧
        ∃ next, p.after.lookup key = some next ∧ read next ≠ read .null) := by
  rw [search, search, search?_fill_field plain, search?_fill_nil, if_pos rfl]
  by_cases first : key ∈ p.before.map (·.1)
  · obtain ⟨part, found⟩ := exists_lookup_of_mem first
    simp only [found, first, Option.map_some, Option.some_or, Option.getD_some, not_true_eq_false,
      false_and, not_false_eq_true, iff_true]
    cases part with
    | apart value => rfl
    | around q => exact ignores q _ _
  · simp only [lookup_eq_none_of_not_mem first, first, Option.map_none, Option.none_or,
      Option.some_or, Option.getD_some, nothing, not_false_eq_true, true_and]
    cases p.after.lookup key with
    | none => simp
    | some next => simp

end Reading

end Place

end ShareLinks.Json
