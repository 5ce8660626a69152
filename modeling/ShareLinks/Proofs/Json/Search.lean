import ShareLinks.Json.Search
import ShareLinks.Proofs.Lookup

/-!
# Fields in the order of a document

The fields of a document at all depths, in the order in which its text names them: a field stands
in front of the fields inside its value, and these stand in front of the field after it. A search
for a name gives the value of the first field of that name among them, whatever that value is, and
it gives none only if there is no field of that name.
-/

namespace ShareLinks.Json

mutual

/-- The fields of all objects in a document. -/
def allFields : Json → Fields
  | .array items => allFieldsOfItems items
  | .object fields => allFieldsOfFields fields
  | _ => []

/-- The fields of all objects in some values. -/
def allFieldsOfItems : List Json → Fields
  | [] => []
  | item :: items => item.allFields ++ allFieldsOfItems items

/-- Some fields, and the fields of all objects in their values. -/
def allFieldsOfFields : List (String × Json) → Fields
  | [] => []
  | (name, value) :: fields => (name, value) :: (value.allFields ++ allFieldsOfFields fields)

end

theorem allFieldsOfItems_append (items more : List Json) :
    allFieldsOfItems (items ++ more) = allFieldsOfItems items ++ allFieldsOfItems more := by
  induction items with
  | nil => rfl
  | cons item items ih =>
    rw [List.cons_append, allFieldsOfItems, allFieldsOfItems, ih, List.append_assoc]

theorem allFieldsOfFields_append (fields more : Fields) :
    allFieldsOfFields (fields ++ more) = allFieldsOfFields fields ++ allFieldsOfFields more := by
  induction fields with
  | nil => rfl
  | cons field fields ih =>
    obtain ⟨name, value⟩ := field
    rw [List.cons_append, allFieldsOfFields, allFieldsOfFields, ih, List.cons_append,
      List.append_assoc]

mutual

theorem search?_eq_lookup (name : String) : ∀ value : Json,
    value.search? name = value.allFields.lookup name
  | .null | .bool _ | .int _ | .float _ | .string _ => rfl
  | .array items => searchItems?_eq_lookup name items
  | .object fields => searchFields?_eq_lookup name fields

theorem searchItems?_eq_lookup (name : String) : ∀ items : List Json,
    searchItems? name items = (allFieldsOfItems items).lookup name
  | [] => rfl
  | item :: items => by
    rw [searchItems?, allFieldsOfItems, List.lookup_append, search?_eq_lookup name item,
      searchItems?_eq_lookup name items]

theorem searchFields?_eq_lookup (name : String) : ∀ fields : List (String × Json),
    searchFields? name fields = (allFieldsOfFields fields).lookup name
  | [] => rfl
  | (other, value) :: fields => by
    rw [searchFields?, allFieldsOfFields]
    by_cases same : other = name
    · rw [if_pos same, same, List.lookup_cons_self]
    · rw [if_neg same, lookup_cons_of_ne (Ne.symm same), List.lookup_append,
        search?_eq_lookup name value, searchFields?_eq_lookup name fields]

end

/-- The first field of a name is found, and no name is found that no field has. -/
theorem search?_finds_first (name : String) (doc : Json) :
    (∀ value, doc.search? name = some value ↔
      ∃ before after, doc.allFields = before ++ (name, value) :: after ∧
        ∀ field ∈ before, field.1 ≠ name) ∧
    (doc.search? name = none ↔ ∀ field ∈ doc.allFields, field.1 ≠ name) := by
  rw [search?_eq_lookup]
  constructor
  · intro value
    rw [List.lookup_eq_some_iff]
    simp only [bne_iff_ne, ne_comm]
  · rw [List.lookup_eq_none_iff]
    simp only [bne_iff_ne, ne_comm]

example :
    (Json.object [("a", .array [.object [("b", .null)]]), ("b", .int 1)]).search? "b" =
      some .null := rfl

end ShareLinks.Json
