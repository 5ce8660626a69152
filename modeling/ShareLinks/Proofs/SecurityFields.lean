import ShareLinks.Proofs.Json.Place
import ShareLinks.Stream.Security

/-!
# Security settings without a field of a wrong type

The fields of security settings are searched for by name, and the first of a name counts, whatever
its value is. A field of a wrong type is read as if there were none. So the settings read the same
without it, unless it was the first of its name where it is looked for and hid another one behind it
that is read as something.
-/

namespace ShareLinks

open Json (Place)

/-- The types of fields: text that is not there or may be empty, text that is empty when it is not
there, truth values and lists. -/
inductive FieldKind where
  | optionalText
  | text
  | flag
  | list

/-- What a field is read as. -/
inductive FieldReading where
  | optionalText (value : Option String)
  | text (value : String)
  | flag (value : Option Bool)
  | list (values : List String)

namespace FieldKind

/-- Whether a value is of the type that is expected. -/
def accepts : FieldKind → Json → Bool
  | optionalText, .string _ | text, .string _ | flag, .bool _ | list, .array _ => true
  | _, _ => false

/-- What a value is read as. A field that is not there has the value null. -/
def read : FieldKind → Json → FieldReading
  | optionalText, value => .optionalText value.string?
  | text, value => .text (value.stringOr "")
  | flag, value => .flag value.bool?
  | list, value => .list value.strings

theorem read_of_mistyped {kind : FieldKind} {value : Json} (h : kind.accepts value = false) :
    kind.read value = kind.read .null := by
  cases kind <;> cases value <;> first | rfl | cases h

theorem ignoresFields_read (kind : FieldKind) : Place.IgnoresFields kind.read := by
  intro p fields more
  cases kind with
  | optionalText => exact congrArg FieldReading.optionalText (Place.ignoresFields_string? p _ _)
  | text => exact congrArg FieldReading.text (Place.ignoresFields_stringOr "" p _ _)
  | flag => exact congrArg FieldReading.flag (Place.ignoresFields_bool? p _ _)
  | list => exact congrArg FieldReading.list (Place.ignoresFields_strings p _ _)

end FieldKind

/-- A field that is searched for: its name, its type, and whether it is looked for only in the value
of the first field named `settings`. -/
@[ext]
structure SoughtField where
  name : String
  kind : FieldKind
  inSettings : Bool

namespace SoughtField

/-- What is read of the field in a document. -/
def read (s : SoughtField) (doc : Json) : FieldReading :=
  s.kind.read ((if s.inSettings then doc.search "settings" else doc).search s.name)

/-- A place of a document as one in the part of it where the field is looked for. -/
def region (s : SoughtField) (p : Place) : Option Place :=
  if s.inSettings then p.within "settings" else some p

/-- A field of the name at a place hides the next one: none of that name is in front of it where the
field is looked for, and the next one behind it there is read as something. -/
def Hides (s : SoughtField) (p : Place) : Prop :=
  ∃ q, s.region p = some q ∧ s.name ∉ q.before.map (·.1) ∧
    ∃ next, q.after.lookup s.name = some next ∧ s.kind.read next ≠ s.kind.read .null

variable {s : SoughtField} {value : Json}

/-- A field does not matter to what is read of fields of other names. -/
theorem read_fill_of_ne (plain : value.allFields = []) (p : Place) {key : String}
    (notSettings : "settings" ≠ key) (other : s.name ≠ key) :
    s.read (p.fill []) = s.read (p.fill [(key, value)]) := by
  have alone (q : Place) :=
    Place.read_search_fill (FieldKind.ignoresFields_read s.kind) plain q other
  unfold SoughtField.read
  cases s.inSettings with
  | false => exact (alone p).symm
  | true =>
    rcases Place.search_fill_field_of_ne plain p notSettings with
      ⟨q, -, found, found'⟩ | ⟨-, same⟩
    · rw [if_pos rfl, if_pos rfl, found, found']
      exact (alone q).symm
    · rw [if_pos rfl, if_pos rfl, same]

theorem read_fill_self_iff (plain : value.allFields = []) (p : Place)
    (notSettings : "settings" ≠ s.name) (mistyped : s.kind.accepts value = false) :
    s.read (p.fill []) = s.read (p.fill [(s.name, value)]) ↔ ¬ s.Hides p := by
  have alone (q : Place) :=
    Place.read_search_fill_self (FieldKind.ignoresFields_read s.kind) plain q s.name
      (FieldKind.read_of_mistyped mistyped)
  unfold SoughtField.read Hides region
  cases s.inSettings with
  | false => simpa using alone p
  | true =>
    rcases Place.search_fill_field_of_ne plain p notSettings with
      ⟨q, within, found, found'⟩ | ⟨outside, same⟩
    · simpa [found, found', within] using alone q
    · simp [same, outside]

/-- Of some fields all are read the same without a field of a wrong type, unless it hides another
one of them. -/
theorem forall_read_fill_iff {sought : List SoughtField} (plain : value.allFields = []) (p : Place)
    {key : String} (notSettings : "settings" ≠ key)
    (mistyped : ∀ s ∈ sought, s.name = key → s.kind.accepts value = false) :
    (∀ s ∈ sought, s.read (p.fill []) = s.read (p.fill [(key, value)])) ↔
      ¬ ∃ s ∈ sought, s.name = key ∧ s.Hides p := by
  constructor
  · rintro all ⟨s, mem, rfl, hides⟩
    exact (read_fill_self_iff plain p notSettings (mistyped s mem rfl)).mp (all s mem) hides
  · intro shown s mem
    by_cases same : s.name = key
    · subst same
      apply (read_fill_self_iff plain p notSettings (mistyped s mem rfl)).mpr
      exact fun hides => shown ⟨s, mem, rfl, hides⟩
    · exact read_fill_of_ne plain p notSettings same

end SoughtField

/-- The fields of TLS settings that are searched for. -/
def Tls.sought : List SoughtField :=
  [⟨"serverName", .optionalText, false⟩, ⟨"fingerprint", .optionalText, true⟩,
    ⟨"allowInsecure", .flag, true⟩]

/-- The fields of Reality settings that are searched for. -/
def Reality.sought : List SoughtField :=
  [⟨"serverNames", .list, false⟩, ⟨"shortIds", .list, false⟩,
    ⟨"publicKey", .optionalText, true⟩, ⟨"fingerprint", .text, true⟩,
    ⟨"mldsa65Verify", .text, true⟩]

/-- TLS settings consist of what is read of these fields, and of one that stands in front. -/
theorem Tls.ofJson_eq_iff {doc other : Json} (object : doc.isObject = true)
    (object' : other.isObject = true) :
    ofJson doc = ofJson other ↔
      (∀ s ∈ sought, s.read doc = s.read other) ∧
        (doc.field "alpn").strings = (other.field "alpn").strings := by
  have whole {value : Json} (h : value.isObject = true) : Json.object value.fields = value := by
    cases value with
    | object => rfl
    | _ => cases h
  simp only [ofJson, whole object, whole object', sought, SoughtField.read, FieldKind.read,
    Tls.mk.injEq, List.forall_mem_cons, List.not_mem_nil, false_implies, implies_true, and_true,
    FieldReading.optionalText.injEq, FieldReading.flag.injEq, if_true, Bool.false_eq_true, if_false]
  constructor
  · rintro ⟨serverName, alpn, fingerprint, permission⟩
    exact ⟨⟨serverName, fingerprint, permission⟩, alpn⟩
  · rintro ⟨⟨serverName, fingerprint, permission⟩, alpn⟩
    exact ⟨serverName, alpn, fingerprint, permission⟩

/-- Reality settings consist of what is read of these fields. -/
theorem Reality.ofJson_eq_iff {doc other : Json} (object : doc.isObject = true)
    (object' : other.isObject = true) :
    ofJson doc = ofJson other ↔ ∀ s ∈ sought, s.read doc = s.read other := by
  simp [ofJson, object, object', sought, SoughtField.read, FieldKind.read]

/-- The fields that are searched for in settings of either kind. -/
def soughtFields : List SoughtField :=
  Tls.sought ++ Reality.sought

/-- Take from a document a field, at any depth, of a name that is searched for and of a wrong type,
with no fields in its value. The settings that are read of the document stay the same exactly if
the field hides no other one of its name. -/
theorem mistyped_field_counts_as_absent {doc : Json} {key : String} {value : Json}
    (object : doc.isObject = true) (stands : (key, value) ∈ doc.allFields)
    (plain : value.allFields = []) (searched : key ∈ soughtFields.map (·.name))
    (mistyped : ∀ s ∈ soughtFields, s.name = key → s.kind.accepts value = false) :
    (∃ p : Place, p.fill [(key, value)] = doc) ∧
    ∀ p : Place, p.fill [(key, value)] = doc →
      (Tls.ofJson (p.fill []) = Tls.ofJson doc ↔
        ¬ ∃ s ∈ Tls.sought, s.name = key ∧ s.Hides p) ∧
      (Reality.ofJson (p.fill []) = Reality.ofJson doc ↔
        ¬ ∃ s ∈ Reality.sought, s.name = key ∧ s.Hides p) := by
  have apart : ∀ name ∈ soughtFields.map (·.name), "settings" ≠ name ∧ "alpn" ≠ name := by decide
  obtain ⟨notSettings, notAlpn⟩ := apart key searched
  obtain ⟨tls, reality⟩ := List.forall_mem_append.mp mistyped
  refine ⟨(Place.mem_allFields_iff (key, value) doc).mp stands, ?_⟩
  rintro p rfl
  have object' : (p.fill []).isObject = true :=
    (Place.ignoresFields_isObject p _ _).trans object
  have alpn : ((p.fill []).field "alpn").strings = ((p.fill [(key, value)]).field "alpn").strings :=
    (Place.read_field_fill Place.ignoresFields_strings p notAlpn).symm
  constructor
  · rw [Tls.ofJson_eq_iff object' object,
      SoughtField.forall_read_fill_iff plain p notSettings tls]
    exact and_iff_left alpn
  · rw [Reality.ofJson_eq_iff object' object]
    exact SoughtField.forall_read_fill_iff plain p notSettings reality

/-- A place for a server name in front of another one further inside. -/
def outerServerName : Place :=
  .here [] [("settings", .object [("serverName", .string "a.example")])]

/-- A server name that is a number hides another one. -/
theorem number_hides_server_name :
    (outerServerName.fill []).isObject = true ∧ (Json.int 5).allFields = [] ∧
      (∀ s ∈ soughtFields, s.name = "serverName" → s.kind.accepts (.int 5) = false) ∧
      Tls.ofJson (outerServerName.fill [("serverName", .int 5)]) = {} ∧
      Tls.ofJson (outerServerName.fill []) = { serverName := some "a.example" } ∧
      Tls.ofJson (outerServerName.fill []) ≠
        Tls.ofJson (outerServerName.fill [("serverName", .int 5)]) := by
  exact ⟨rfl, rfl, by decide, rfl, rfl, by decide⟩

/-- A place for a key between two others. -/
def laterPublicKey : Place :=
  .inField [("publicKey", .string "k1")] "settings"
    (.here [("publicKey", .string "k2")] [("more", .object [("publicKey", .string "k3")])]) []

/-- A key that is null does not matter behind another one where it is looked for. -/
theorem null_hides_no_public_key :
    (laterPublicKey.fill [("publicKey", .null)]).isObject = true ∧
      ("publicKey", Json.null) ∈ (laterPublicKey.fill [("publicKey", .null)]).allFields ∧
      Json.null.allFields = [] ∧ "publicKey" ∈ soughtFields.map (·.name) ∧
      (∀ s ∈ soughtFields, s.name = "publicKey" → s.kind.accepts .null = false) ∧
      Reality.ofJson (laterPublicKey.fill []) =
        Reality.ofJson (laterPublicKey.fill [("publicKey", .null)]) := by
  have object : (laterPublicKey.fill [("publicKey", .null)]).isObject = true := rfl
  have stands : ("publicKey", Json.null) ∈
      (laterPublicKey.fill [("publicKey", .null)]).allFields :=
    (Place.mem_allFields_iff _ _).mpr ⟨laterPublicKey, rfl⟩
  have plain : Json.null.allFields = [] := rfl
  have searched : "publicKey" ∈ soughtFields.map (·.name) := by decide
  have mistyped : ∀ s ∈ soughtFields, s.name = "publicKey" → s.kind.accepts .null = false := by
    decide
  have shown : ¬ ∃ s ∈ Reality.sought, s.name = "publicKey" ∧ s.Hides laterPublicKey := by
    rintro ⟨s, mem, named, q, region, new, -⟩
    obtain rfl : s = ⟨"publicKey", .optionalText, true⟩ := by
      simpa [Reality.sought, SoughtField.ext_iff, named] using mem
    cases region
    exact new List.mem_cons_self
  obtain ⟨-, counts⟩ := mistyped_field_counts_as_absent object stands plain searched mistyped
  exact ⟨object, stands, plain, searched, mistyped, (counts laterPublicKey rfl).2.mpr shown⟩

end ShareLinks
