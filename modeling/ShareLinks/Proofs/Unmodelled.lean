import ShareLinks.Proofs.Enrolment
import ShareLinks.Proofs.Json.RoundTrip

/-!
# What is kept of fields that are not decoded

Fields beside those that settings decode are carried along and written back. The entries of the
client list are decoded anew one by one, and a client has no place for what it does not decode:
whatever else an entry held is gone when the settings are written.
-/

namespace ShareLinks

/-- The fields of a document under other than some names. -/
def Json.fieldsBeyond (names : List String) (doc : Json) : Fields :=
  doc.fields.filter fun (name, _) => !names.contains name

namespace Settings

/-- What was written still has every field that is not decoded: those of the settings themselves,
and those of each entry of the client list in the entry at its place. -/
structure KeepsUnmodelled (stored written : Json) : Prop where
  beside : ∀ field ∈ stored.fieldsBeyond knownNames, field ∈ written.fields
  inClients : ∀ (k : Nat) (entry : Json), (stored.field "clients").items[k]? = some entry →
    ∃ client : Json, (written.field "clients").items[k]? = some client ∧
      ∀ field ∈ entry.fieldsBeyond Client.storedNames, field ∈ client.fields

/-- No entry of the client list has a field that is not decoded. -/
def HasPlainClients (stored : Json) : Prop :=
  ∀ entry ∈ (stored.field "clients").items, entry.fieldsBeyond Client.storedNames = []

theorem fieldsBeyond_toJson {s : Settings} (unknown : ∀ name ∈ s.extra.names, name ∉ knownNames) :
    s.toJson.fieldsBeyond knownNames = s.extra :=
  filter_toJson unknown

theorem extra_ofJson {doc : Json} {s : Settings} (h : ofJson doc = .ok s) :
    s.extra = doc.fieldsBeyond knownNames := by
  obtain ⟨clients, -, h⟩ := bind_eq_ok_iff.mp h
  cases h
  rfl

theorem clients_ofJson {doc : Json} {s : Settings}
    (objects : ∀ entry ∈ (doc.field "clients").items, entry.isObject = true)
    (h : ofJson doc = .ok s) :
    List.Forall₂ (fun entry c => Client.ofJson entry = .ok c) (doc.field "clients").items
      s.clients := by
  obtain ⟨clients, read, h⟩ := bind_eq_ok_iff.mp h
  cases h
  rw [List.filter_eq_self.mpr objects] at read
  exact mapM_eq_ok_iff.mp read

/-- A written client has no field but those that clients decode. -/
theorem not_mem_toJson (c : Client) {entry : Json} {field : String × Json}
    (h : field ∈ entry.fieldsBeyond Client.storedNames) : field ∉ c.toJson.fields := by
  intro written
  have stored := c.names_toJson.subset (List.mem_map_of_mem written)
  have beyond := (List.mem_filter.mp h).2
  simp [stored] at beyond

/-- Settings that were read, with more clients or without, keep what was not decoded unless an
entry of the client list had a field of that kind. -/
theorem keepsUnmodelled_iff {doc : Json} {s t : Settings} {more : List Client}
    (objects : ∀ entry ∈ (doc.field "clients").items, entry.isObject = true)
    (h : ofJson doc = .ok s) (extra : t.extra = s.extra) (clients : t.clients = s.clients ++ more) :
    KeepsUnmodelled doc t.toJson ↔ HasPlainClients doc := by
  have unknown : ∀ name ∈ t.extra.names, name ∉ knownNames := extra ▸ unknown_ofJson h
  have written : (t.toJson.field "clients").items = t.clients.map Client.toJson := by
    rw [clients_toJson unknown]
    rfl
  have length := (clients_ofJson objects h).length_eq
  constructor
  · intro keeps entry hentry
    obtain ⟨k, hk, rfl⟩ := List.getElem_of_mem hentry
    obtain ⟨client, hclient, kept⟩ := keeps.inClients k _ (List.getElem?_eq_getElem hk)
    rw [written, List.getElem?_map, Option.map_eq_some_iff] at hclient
    obtain ⟨c, -, rfl⟩ := hclient
    apply List.eq_nil_iff_forall_not_mem.mpr
    intro field hfield
    exact not_mem_toJson c hfield (kept field hfield)
  · intro plain
    constructor
    · intro field hfield
      rw [← extra_ofJson h, ← extra, ← fieldsBeyond_toJson unknown] at hfield
      exact (List.mem_filter.mp hfield).1
    · intro k entry hentry
      obtain ⟨hk, rfl⟩ := List.getElem?_eq_some_iff.mp hentry
      have place : k < t.clients.length := by
        rw [clients, List.length_append]
        omega
      refine ⟨(t.clients[k]).toJson, ?_, ?_⟩
      · rw [written, List.getElem?_map, List.getElem?_eq_getElem place]
        rfl
      · rw [plain _ (List.getElem_mem hk)]
        exact fun _ none => absurd none List.not_mem_nil

/-- Whatever is kept, the fields beside those that settings decode are, and in their order. -/
theorem fieldsBeyond_of_extra {doc : Json} {s t : Settings} (h : ofJson doc = .ok s)
    (extra : t.extra = s.extra) :
    t.toJson.fieldsBeyond knownNames = doc.fieldsBeyond knownNames := by
  rw [fieldsBeyond_toJson (extra ▸ unknown_ofJson h), extra, extra_ofJson h]

end Settings

namespace Inbound

open Settings (KeepsUnmodelled HasPlainClients knownNames)

/-- The settings that an enrolment gives are read as those of the inbound with one more client. -/
theorem parse_enrolled_settings {i enrolled : Inbound} {manner : Link.Manner}
    {address email : String} {source after : Source} {e : Enrolment}
    (storable : i.settings.IsStorable)
    (h : i.enrol manner address email source = (.ok e, enrolled, after)) :
    ∃ c, Json.parse e.settings.toList = .ok (i.settings.add c).toJson := by
  obtain ⟨c, next, text, made, rfl, -, writable, rfl⟩ := enrol_eq_ok h
  have new := (storable.add (isNew_newClient made).limits).hasDistinctNames_toJson
  refine ⟨c, ?_⟩
  rw [Json.render, String.toList_ofList, Json.parse_text _ writable, addClient,
    Json.normal_eq_self _ new]

/-- Settings that were read and are written again, or are given by an enrolment, have all fields
beside those that settings decode, in their order. They have all fields that are not decoded
exactly where no entry of the client list had any: what an entry holds beside the fields of a
client is lost. -/
theorem written_settings_keep_unmodelled_iff {doc : Json} {i : Inbound}
    (objects : ∀ entry ∈ (doc.field "clients").items, entry.isObject = true)
    (read : Settings.ofJson doc = .ok i.settings) :
    (i.settings.toJson.fieldsBeyond knownNames = doc.fieldsBeyond knownNames ∧
      (KeepsUnmodelled doc i.settings.toJson ↔ HasPlainClients doc)) ∧
    (doc.hasDistinctNames = true → ∀ manner address email source e enrolled after,
      i.enrol manner address email source = (.ok e, enrolled, after) →
        ∃ written, Json.parse e.settings.toList = .ok written ∧
          written.fieldsBeyond knownNames = doc.fieldsBeyond knownNames ∧
          (KeepsUnmodelled doc written ↔ HasPlainClients doc)) := by
  constructor
  · constructor
    · exact Settings.fieldsBeyond_of_extra read rfl
    · exact Settings.keepsUnmodelled_iff objects read rfl (List.append_nil _).symm
  · intro distinct manner address email source e enrolled after h
    obtain ⟨c, parsed⟩ := parse_enrolled_settings (Settings.isStorable_ofJson distinct read) h
    refine ⟨_, parsed, Settings.fieldsBeyond_of_extra read rfl, ?_⟩
    exact Settings.keepsUnmodelled_iff objects read rfl rfl

/-- Settings with a field that is not decoded beside the clients, and one in a client. -/
def annotatedSettings : Json :=
  .object
    [("clients", .array [.object [("email", .string "ada"), ("id", .string "k1"),
      ("alterId", .int 64)]]), ("decryption", .string "none")]

/-- The inbound of these settings. -/
def annotatedInbound : Inbound :=
  { port := 443
    protocol := "vless"
    settings :=
      { clients := [{ email := "ada", id := "k1" }], extra := [("decryption", .string "none")] }
    stream := { network := "tcp" } }

/-- The field of the client is lost, both from the settings as they are and from those that an
enrolment gives; the other stays. -/
theorem field_of_client_is_lost :
    Settings.ofJson annotatedSettings = .ok annotatedInbound.settings ∧
      annotatedInbound.settings.toJson.fieldsBeyond knownNames =
        [("decryption", .string "none")] ∧
      ¬ KeepsUnmodelled annotatedSettings annotatedInbound.settings.toJson ∧
      ∃ e enrolled after written,
        annotatedInbound.enrol Link.plainManner "a.example" "bo" (Source.ofWords [0]) =
            (.ok e, enrolled, after) ∧
          Json.parse e.settings.toList = .ok written ∧
          ¬ KeepsUnmodelled annotatedSettings written := by
  have objects : ∀ entry ∈ (annotatedSettings.field "clients").items, entry.isObject = true := by
    intro entry h
    rw [List.mem_singleton.mp h]
    rfl
  have notPlain : ¬ HasPlainClients annotatedSettings := by
    intro plain
    have none := plain _ List.mem_cons_self
    cases none
  have read : Settings.ofJson annotatedSettings = .ok annotatedInbound.settings := rfl
  have enrolment : ∃ e enrolled after,
      annotatedInbound.enrol Link.plainManner "a.example" "bo" (Source.ofWords [0]) =
        (.ok e, enrolled, after) := ⟨_, _, _, rfl⟩
  obtain ⟨e, enrolled, after, h⟩ := enrolment
  obtain ⟨⟨beside, keeps⟩, stored⟩ := written_settings_keep_unmodelled_iff objects read
  obtain ⟨written, parsed, -, keeps'⟩ := stored (by decide) _ _ _ _ _ _ _ h
  exact ⟨read, beside, fun all => notPlain (keeps.mp all), e, enrolled, after, written, h, parsed,
    fun all => notPlain (keeps'.mp all)⟩

end Inbound
end ShareLinks
