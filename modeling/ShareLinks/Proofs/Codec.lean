import ShareLinks.Settings
import ShareLinks.Proofs.Json.Distinct
import ShareLinks.Proofs.Sequence

/-!
# Stored clients and settings are read back

What is left out of the stored form of a client is what a reader takes for granted, and what is
kept beside the known fields of settings comes back in its order. Only limits that are no integers
would change, and those are of clients that were never stored.
-/

namespace ShareLinks

namespace Client

theorem lookup_nonemptyField (name key value : String) :
    (nonemptyField key value).lookup name =
      if name = key ∧ value ≠ "" then some (.string value) else none := by
  by_cases empty : value = ""
  · simp [nonemptyField, empty]
  · by_cases same : name = key
    · simp [nonemptyField, empty, same]
    · have : (name == key) = false := by simpa using same
      simp [nonemptyField, empty, same, List.lookup_cons, this]

/-- A field that is left out when it is empty is read as empty. -/
theorem stringOr_of_nonempty (value : String) :
    ((if value = "" then none else some (Json.string value)).getD .null).stringOr "" = value := by
  split
  · next empty => rw [empty]; rfl
  · rfl

theorem names_nonemptyField (key value : String) :
    (Fields.names (nonemptyField key value)).Sublist [key] := by
  unfold nonemptyField
  split
  · exact List.nil_sublist _
  · exact List.Sublist.refl _

/-- The limits of a client are integers. -/
structure HasIntegerLimits (c : Client) : Prop where
  limitIp : ∃ n, c.limitIp = .int n
  totalBytes : ∃ n, c.totalBytes = .int n
  expiryTime : ∃ n, c.expiryTime = .int n
  telegramId : ∃ n, c.telegramId = .int n

theorem hasIntegerLimits_ofJson {doc : Json} {c : Client} (h : ofJson doc = .ok c) :
    c.HasIntegerLimits := by
  simp only [ofJson, bind_eq_ok_iff] at h
  obtain ⟨limitIp, -, totalBytes, -, expiryTime, -, telegramId, -, _, -, _, -, _, -, h⟩ := h
  cases h
  exact ⟨⟨_, rfl⟩, ⟨_, rfl⟩, ⟨_, rfl⟩, ⟨_, rfl⟩⟩

theorem ofJson_toJson {c : Client} (h : c.HasIntegerLimits) : ofJson c.toJson = .ok c := by
  obtain ⟨⟨limitIp, h1⟩, ⟨totalBytes, h2⟩, ⟨expiryTime, h3⟩, ⟨telegramId, h4⟩⟩ := h
  obtain ⟨email, id, password, security⟩ := c
  subst h1 h2 h3 h4
  simp [ofJson, toJson, Json.field, Json.fields, List.lookup_append, lookup_nonemptyField,
    List.lookup_cons, stringOr_of_nonempty]
  rfl

theorem mapM_ofJson_toJson {cs : List Client} (h : ∀ c ∈ cs, c.HasIntegerLimits) :
    (cs.map toJson).mapM ofJson = .ok cs := by
  rw [mapM_eq_ok_iff, List.forall₂_map_left_iff, List.forall₂_same]
  exact fun c hc => ofJson_toJson (h c hc)

/-- The names under which a client is stored. -/
def storedNames : List String :=
  ["email", "id", "password", "security", "flow", "enable", "limitIp", "totalGB", "expiryTime",
    "tgId", "subId", "comment", "reset", "created_at", "updated_at"]

theorem names_toJson (c : Client) : (Fields.names c.toJson.fields).Sublist storedNames := by
  have left (name value : String) := names_nonemptyField name value
  simp only [Fields.names] at left
  simp only [toJson, Json.fields, Fields.names, List.map_append]
  exact (((List.Sublist.refl ["email"]).append (left "id" _)).append (left "password" _)).append
    (left "security" _) |>.append (List.Sublist.refl _)

theorem hasDistinctNames_nonemptyField (key value : String) :
    ∀ field ∈ nonemptyField key value, field.2.hasDistinctNames = true := by
  intro field h
  unfold nonemptyField at h
  split at h
  · cases h
  · rw [List.mem_singleton.mp h]
    rfl

theorem hasDistinctNames_toJson (c : Client) : c.toJson.hasDistinctNames = true := by
  have strings := hasDistinctNames_nonemptyField
  refine (Json.hasDistinctNames_object _).mpr ⟨(names_toJson c).nodup (by decide), ?_⟩
  have number (n : Number) : n.toJson.hasDistinctNames = true := by cases n <;> rfl
  simp only [List.forall_mem_append, List.forall_mem_cons, List.not_mem_nil, false_implies,
    implies_true, and_true, true_and, number, Json.hasDistinctNames]
  exact ⟨⟨strings _ _, strings _ _⟩, strings _ _⟩

theorem hasDistinctNames_map_toJson (cs : List Client) :
    (Json.array (cs.map toJson)).hasDistinctNames = true := by
  rw [Json.hasDistinctNames_array]
  intro doc hdoc
  obtain ⟨c, -, rfl⟩ := List.mem_map.mp hdoc
  exact c.hasDistinctNames_toJson

end Client

namespace Settings

/-- Settings that are read back as they were written. Nothing that is kept beside the known fields
is hidden by one of them or by another. -/
structure IsStorable (s : Settings) : Prop where
  limits : ∀ c ∈ s.clients, c.HasIntegerLimits
  unknown : ∀ name ∈ s.extra.names, name ∉ knownNames
  distinct : (Json.object s.extra).hasDistinctNames = true

/-- What is kept when settings are read has names of its own. -/
theorem unknown_ofJson {doc : Json} {s : Settings} (h : ofJson doc = .ok s) :
    ∀ name ∈ s.extra.names, name ∉ knownNames := by
  obtain ⟨clients, -, h⟩ := bind_eq_ok_iff.mp h
  cases h
  intro name hname
  obtain ⟨field, kept, rfl⟩ := List.mem_map.mp hname
  simpa using (List.mem_filter.mp kept).2

theorem isStorable_ofJson {doc : Json} {s : Settings} (distinct : doc.hasDistinctNames = true)
    (h : ofJson doc = .ok s) : s.IsStorable := by
  have unknown := unknown_ofJson h
  obtain ⟨clients, read, h⟩ := bind_eq_ok_iff.mp h
  cases h
  refine ⟨fun c hc => ?_, unknown, ?_⟩
  · obtain ⟨_, -, client⟩ := exists_of_mem_mapM read hc
    exact Client.hasIntegerLimits_ofJson client
  · cases doc with
    | object fields =>
      obtain ⟨nodup, values⟩ := (Json.hasDistinctNames_object fields).mp distinct
      have part : (fields.filter fun field => !knownNames.contains field.1).Sublist fields :=
        List.filter_sublist
      exact (Json.hasDistinctNames_object _).mpr
        ⟨(part.map _).nodup nodup, fun field kept => values field (part.subset kept)⟩
    | _ => rfl

theorem IsStorable.add {s : Settings} (h : s.IsStorable) {c : Client}
    (limits : c.HasIntegerLimits) : (s.add c).IsStorable := by
  refine ⟨fun other hother => ?_, h.unknown, h.distinct⟩
  rcases List.mem_append.mp hother with old | new
  · exact h.limits other old
  · rw [List.mem_singleton.mp new]
    exact limits

/-- The fields that are known, as they are stored. -/
def knownFields (s : Settings) : Fields :=
  [("clients", .array (s.clients.map Client.toJson))] ++
    Client.nonemptyField "method" s.method ++ Client.nonemptyField "password" s.password ++
    s.encryption.toList.map fun encryption => ("encryption", .string encryption)

theorem toJson_eq (s : Settings) : s.toJson = .object (s.extra ++ s.knownFields) := by
  simp only [toJson, knownFields, List.append_assoc]

theorem names_knownFields (s : Settings) : s.knownFields.names.Sublist knownNames := by
  have left (name value : String) := Client.names_nonemptyField name value
  have encryption : (s.encryption.toList.map fun _ => "encryption").Sublist ["encryption"] := by
    cases s.encryption <;> simp
  simp only [Fields.names] at left
  simp only [knownFields, Fields.names, List.map_append, List.map_map, Function.comp_def]
  exact (((List.Sublist.refl ["clients"]).append (left "method" _)).append
    (left "password" _)).append encryption

theorem lookup_toJson {s : Settings} (unknown : ∀ name ∈ s.extra.names, name ∉ knownNames)
    {name : String} (known : name ∈ knownNames) :
    s.toJson.fields.lookup name = s.knownFields.lookup name := by
  have none_extra : s.extra.lookup name = none :=
    lookup_eq_none_of_not_mem fun kept => unknown name kept known
  rw [toJson_eq, Json.fields, List.lookup_append, none_extra, Option.none_or]

theorem filter_toJson {s : Settings} (unknown : ∀ name ∈ s.extra.names, name ∉ knownNames) :
    (s.toJson.fields.filter fun (name, _) => !knownNames.contains name) = s.extra := by
  have kept : ∀ field ∈ s.extra, (!knownNames.contains field.1) = true := by
    intro field hfield
    simpa using unknown field.1 (List.mem_map_of_mem hfield)
  have dropped : ∀ field ∈ s.knownFields, ¬ (!knownNames.contains field.1) = true := by
    intro field hfield
    simpa using s.names_knownFields.subset (List.mem_map_of_mem hfield)
  rw [toJson_eq, Json.fields, List.filter_append, List.filter_eq_self.mpr kept,
    List.filter_eq_nil_iff.mpr dropped, List.append_nil]

theorem clients_toJson {s : Settings} (unknown : ∀ name ∈ s.extra.names, name ∉ knownNames) :
    s.toJson.field "clients" = .array (s.clients.map Client.toJson) := by
  rw [Json.field, lookup_toJson unknown (by decide)]
  simp [knownFields]

/-- Storable settings are read back from what is written of them. -/
theorem ofJson_toJson {s : Settings} (h : s.IsStorable) : ofJson s.toJson = .ok s := by
  have field (name : String) (known : name ∈ knownNames) :
      s.toJson.field name = (s.knownFields.lookup name).getD .null := by
    rw [Json.field, lookup_toJson h.unknown known]
  have method : (s.toJson.field "method").stringOr "" = s.method := by
    rw [field _ (by decide), ← Client.stringOr_of_nonempty s.method]
    simp [knownFields, List.lookup_append, Client.lookup_nonemptyField, lookup_optional,
      List.lookup_cons]
  have password : (s.toJson.field "password").stringOr "" = s.password := by
    rw [field _ (by decide), ← Client.stringOr_of_nonempty s.password]
    simp [knownFields, List.lookup_append, Client.lookup_nonemptyField, lookup_optional,
      List.lookup_cons]
  have encryption : (s.toJson.field "encryption").string? = s.encryption := by
    rw [field _ (by decide)]
    simp [knownFields, List.lookup_append, Client.lookup_nonemptyField, lookup_optional,
      List.lookup_cons]
    cases s.encryption <;> rfl
  have objects : ((s.clients.map Client.toJson).filter Json.isObject) =
      s.clients.map Client.toJson := by
    rw [List.filter_eq_self]
    intro doc hdoc
    obtain ⟨c, -, rfl⟩ := List.mem_map.mp hdoc
    rfl
  rw [ofJson, clients_toJson h.unknown, method, password, encryption, filter_toJson h.unknown,
    Json.items, objects, Client.mapM_ofJson_toJson h.limits]
  rfl

/-- The clients are read back whatever is kept beside them, even under their name. -/
theorem clients_of_normal_toJson (s : Settings) :
    s.toJson.normal.field "clients" = .array (s.clients.map Client.toJson) := by
  have nodup : ("clients" :: Fields.names s.knownFields.tail).Nodup :=
    s.names_knownFields.nodup (by decide)
  have last : "clients" ∉ Fields.names s.knownFields.tail := (List.nodup_cons.mp nodup).1
  rw [toJson_eq, ← Json.normal_eq_self _ (Client.hasDistinctNames_map_toJson s.clients)]
  exact Json.field_normal_of_last last s.extra _

theorem IsStorable.hasDistinctNames_toJson {s : Settings} (h : s.IsStorable) :
    s.toJson.hasDistinctNames = true := by
  obtain ⟨nodup, values⟩ := (Json.hasDistinctNames_object s.extra).mp h.distinct
  rw [toJson_eq, Json.hasDistinctNames_object]
  constructor
  · rw [Fields.names, List.map_append, List.nodup_append]
    refine ⟨nodup, s.names_knownFields.nodup (by decide), ?_⟩
    rintro name other known hknown rfl
    exact h.unknown name other (s.names_knownFields.subset hknown)
  · intro field hfield
    rcases List.mem_append.mp hfield with other | known
    · exact values field other
    · simp only [knownFields, List.mem_append, List.mem_singleton, List.mem_map] at known
      rcases known with ((rfl | method) | password) | ⟨_, -, rfl⟩
      · exact Client.hasDistinctNames_map_toJson s.clients
      · exact Client.hasDistinctNames_nonemptyField _ _ field method
      · exact Client.hasDistinctNames_nonemptyField _ _ field password
      · rfl

end Settings
end ShareLinks
