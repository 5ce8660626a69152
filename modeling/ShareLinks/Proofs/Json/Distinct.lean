import ShareLinks.Json.Field
import ShareLinks.Json.Parser
import ShareLinks.Proofs.Lookup

/-!
# Documents without repeated fields

An object of a document may name a field twice. Of such fields the first place and the last value
count; the document with only these is its normal form, and it is the form in which documents
are read. A document in which no object names a field twice is its own normal form.
-/

namespace ShareLinks.Json

mutual

/-- The document with the first place and the last value of each field. -/
def normal : Json → Json
  | .array items => .array (normalItems items)
  | .object fields => .object (normalFields [] fields)
  | value => value

/-- The normal forms of some values. -/
def normalItems : List Json → List Json
  | [] => []
  | item :: items => item.normal :: normalItems items

/-- The fields in `done` with some more fields put among them. -/
def normalFields (done : Fields) : List (String × Json) → Fields
  | [] => done
  | (name, value) :: fields => normalFields (done.put name value.normal) fields

end

mutual

/-- Whether no object names a field twice. -/
def hasDistinctNames : Json → Bool
  | .array items => haveDistinctNames items
  | .object fields => decide (Fields.names fields).Nodup && fieldsHaveDistinctNames fields
  | _ => true

/-- Whether none of some values names a field twice. -/
def haveDistinctNames : List Json → Bool
  | [] => true
  | item :: items => item.hasDistinctNames && haveDistinctNames items

/-- Whether none of the values of some fields names a field twice. -/
def fieldsHaveDistinctNames : List (String × Json) → Bool
  | [] => true
  | (_, value) :: fields => value.hasDistinctNames && fieldsHaveDistinctNames fields

end

theorem haveDistinctNames_iff (items : List Json) :
    haveDistinctNames items = true ↔ ∀ item ∈ items, item.hasDistinctNames = true := by
  induction items with
  | nil => simp [haveDistinctNames]
  | cons item items ih => simp [haveDistinctNames, ih]

theorem fieldsHaveDistinctNames_iff (fields : Fields) :
    fieldsHaveDistinctNames fields = true ↔
      ∀ field ∈ fields, field.2.hasDistinctNames = true := by
  induction fields with
  | nil => simp [fieldsHaveDistinctNames]
  | cons field fields ih => simp [fieldsHaveDistinctNames, ih]

theorem hasDistinctNames_array (items : List Json) :
    (Json.array items).hasDistinctNames = true ↔ ∀ item ∈ items, item.hasDistinctNames = true := by
  rw [hasDistinctNames, haveDistinctNames_iff]

theorem hasDistinctNames_object (fields : Fields) :
    (Json.object fields).hasDistinctNames = true ↔
      fields.names.Nodup ∧ ∀ field ∈ fields, field.2.hasDistinctNames = true := by
  rw [hasDistinctNames, Bool.and_eq_true, decide_eq_true_eq, fieldsHaveDistinctNames_iff]

theorem hasDistinctNames_field {doc : Json} (distinct : doc.hasDistinctNames = true)
    (name : String) : (doc.field name).hasDistinctNames = true := by
  rw [field]
  cases found : doc.fields.lookup name with
  | none => rfl
  | some value =>
    cases doc with
    | object fields =>
      obtain ⟨-, values⟩ := (hasDistinctNames_object fields).mp distinct
      obtain ⟨before, after, split, -⟩ := List.lookup_eq_some_iff.mp found
      rw [Json.fields] at split
      exact values (name, value) (by rw [split]; simp)
    | _ => cases found

theorem put_of_not_mem {name : String} (value : Json) {fields : Fields}
    (new : name ∉ fields.names) : fields.put name value = fields ++ [(name, value)] := by
  induction fields with
  | nil => rfl
  | cons field fields ih =>
    obtain ⟨other, old⟩ := field
    simp only [Fields.names, List.map_cons, List.mem_cons, not_or] at new
    have ne : other ≠ name := fun h => new.1 h.symm
    rw [Fields.put, if_neg ne, ih new.2, List.cons_append]

mutual

theorem normal_eq_self : ∀ value : Json, value.hasDistinctNames = true → value.normal = value
  | .null, _ | .bool _, _ | .int _, _ | .float _, _ | .string _, _ => rfl
  | .array items, h => by
    rw [normal, normalItems_eq_self items h]
  | .object fields, h => by
    obtain ⟨nodup, values⟩ := (hasDistinctNames_object fields).mp h
    rw [normal, normalFields_eq_append [] fields ((fieldsHaveDistinctNames_iff fields).mpr values)
      (by simpa using nodup), List.nil_append]

theorem normalItems_eq_self : ∀ items : List Json,
    haveDistinctNames items = true → normalItems items = items
  | [], _ => rfl
  | item :: items, h => by
    rw [haveDistinctNames, Bool.and_eq_true] at h
    rw [normalItems, normal_eq_self item h.1, normalItems_eq_self items h.2]

theorem normalFields_eq_append (done : Fields) : ∀ fields : List (String × Json),
    fieldsHaveDistinctNames fields = true → (Fields.names (done ++ fields)).Nodup →
      normalFields done fields = done ++ fields
  | [], _, _ => by rw [normalFields, List.append_nil]
  | (name, value) :: fields, h, nodup => by
    rw [fieldsHaveDistinctNames, Bool.and_eq_true] at h
    have new : name ∉ done.names := by
      intro old
      simp only [Fields.names, List.map_append, List.map_cons] at nodup old
      exact (List.nodup_append.mp nodup).2.2 name old name (by simp) rfl
    rw [normalFields, normal_eq_self value h.1, put_of_not_mem value new,
      normalFields_eq_append _ fields h.2 (by simpa using nodup), List.append_assoc,
      List.singleton_append]

end

theorem names_put_nodup {name : String} {value : Json} {fields : Fields}
    (h : fields.names.Nodup) : (fields.put name value).names.Nodup := by
  rw [Fields.names_put]
  split
  · exact h
  · next new =>
    rw [List.nodup_append]
    refine ⟨h, by simp, ?_⟩
    rintro a ha b hb rfl
    obtain rfl := List.mem_singleton.mp hb
    exact new ha

theorem mem_put {name : String} {value : Json} {fields : Fields} {field : String × Json}
    (h : field ∈ fields.put name value) : field = (name, value) ∨ field ∈ fields := by
  induction fields with
  | nil => exact .inl (by simpa [Fields.put] using h)
  | cons other fields ih =>
    obtain ⟨other, old⟩ := other
    rw [Fields.put] at h
    split at h
    · rcases List.mem_cons.mp h with h | h
      · exact .inl h
      · exact .inr (List.mem_cons_of_mem _ h)
    · rcases List.mem_cons.mp h with rfl | h
      · exact .inr (by simp)
      · exact (ih h).imp_right (List.mem_cons_of_mem _)

theorem hasDistinctNames_put {name : String} {value : Json} {fields : Fields}
    (h : (Json.object fields).hasDistinctNames = true) (hv : value.hasDistinctNames = true) :
    (Json.object (fields.put name value)).hasDistinctNames = true := by
  obtain ⟨nodup, values⟩ := (hasDistinctNames_object fields).mp h
  refine (hasDistinctNames_object _).mpr ⟨names_put_nodup nodup, fun field hf => ?_⟩
  rcases mem_put hf with rfl | old
  · exact hv
  · exact values field old

/-- A field that is looked for after it was put has the value that was put. -/
theorem lookup_put (name key : String) (value : Json) (fields : Fields) :
    (fields.put key value).lookup name =
      if name = key then some value else fields.lookup name := by
  induction fields with
  | nil =>
    by_cases h : name = key
    · simp [Fields.put, h]
    · rw [Fields.put, lookup_cons_of_ne h, if_neg h]
  | cons field fields ih =>
    obtain ⟨other, old⟩ := field
    rw [Fields.put]
    by_cases same : other = key
    · subst same
      by_cases h : name = other
      · simp [h]
      · rw [if_pos rfl, if_neg h, lookup_cons_of_ne h, lookup_cons_of_ne h]
    · rw [if_neg same]
      by_cases h : name = other
      · subst h
        simp [same]
      · rw [lookup_cons_of_ne h, lookup_cons_of_ne h, ih]

/-- Fields of other names are put without changing the value of a field. -/
theorem lookup_normalFields_of_not_mem {name : String} {fields : Fields}
    (h : name ∉ fields.names) (done : Fields) :
    (normalFields done fields).lookup name = done.lookup name := by
  induction fields generalizing done with
  | nil => rfl
  | cons field fields ih =>
    obtain ⟨other, value⟩ := field
    simp only [Fields.names, List.map_cons, List.mem_cons, not_or] at h
    rw [normalFields, ih h.2, lookup_put, if_neg h.1]

theorem normalFields_append (done before after : Fields) :
    normalFields done (before ++ after) = normalFields (normalFields done before) after := by
  induction before generalizing done with
  | nil => rfl
  | cons field before ih => exact ih _

theorem field_normal_of_last {name : String} {after : Fields} (last : name ∉ after.names)
    (before : Fields) (value : Json) :
    (Json.object (before ++ (name, value) :: after)).normal.field name = value.normal := by
  rw [normal, field, fields, normalFields_append, normalFields,
    lookup_normalFields_of_not_mem last, lookup_put, if_pos rfl, Option.getD_some]

end ShareLinks.Json
