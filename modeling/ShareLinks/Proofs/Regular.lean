import ShareLinks.Inbound
import ShareLinks.Proofs.Json.Integers
import ShareLinks.Proofs.Lookup

/-!
# Irregular values in records

A record is read with defaults in the place of what is missing or of a wrong type. To read it is to
read the record in which every such value is null. Three things are refused: a part that is stored
as text which is not JSON, a part with a numeral that is too long in its text, and a value that
looks like an integer and is none.
-/

namespace ShareLinks

/-- How the values in one place are regarded: a value of the right type as it is, but for what is
inside it, and any other value as null. Null stays null. -/
structure Rule where
  apply : Json → Json
  apply_null : apply .null = .null

namespace Rule

/-- Only strings count. -/
def string : Rule where
  apply
    | .string s => .string s
    | _ => .null
  apply_null := rfl

/-- Only truth values count. -/
def bool : Rule where
  apply
    | .bool b => .bool b
    | _ => .null
  apply_null := rfl

/-- Only what stands for an integer counts. -/
def integer : Rule where
  apply := Json.integral
  apply_null := rfl

/-- Only arrays count, and each item is regarded by a rule. -/
def each (rule : Rule) : Rule where
  apply
    | .array items => .array (items.map rule.apply)
    | _ => .null
  apply_null := rfl

/-- Only objects count. -/
def object : Rule where
  apply
    | .object fields => .object fields
    | _ => .null
  apply_null := rfl

/-- A field is regarded by the rule for its name; without one it stays as it is. -/
def ofName (rules : List (String × Rule)) (name : String) (value : Json) : Json :=
  ((rules.lookup name).map fun rule => rule.apply value).getD value

/-- Only objects count, and each field is regarded by the rule for its name. -/
def fields (rules : List (String × Rule)) : Rule where
  apply
    | .object fields => .object (fields.map fun (name, value) => (name, ofName rules name value))
    | _ => .null
  apply_null := rfl

/-- A header has a string or an array of strings for a value. -/
def header : Rule where
  apply
    | .string s => .string s
    | value => (each string).apply value
  apply_null := rfl

/-- Only objects count, and each field is regarded as a header. -/
def headers : Rule where
  apply
    | .object fields => .object (fields.map fun (name, value) => (name, header.apply value))
    | _ => .null
  apply_null := rfl

@[simp] theorem string?_string (value : Json) : (string.apply value).string? = value.string? := by
  cases value <;> rfl

@[simp] theorem stringOr_string (default : String) (value : Json) :
    (string.apply value).stringOr default = value.stringOr default := by
  cases value <;> rfl

@[simp] theorem boolOr_bool (default : Bool) (value : Json) :
    (bool.apply value).boolOr default = value.boolOr default := by
  cases value <;> rfl

@[simp] theorem items_each (rule : Rule) (value : Json) :
    ((each rule).apply value).items = value.items.map rule.apply := by
  cases value <;> rfl

@[simp] theorem strings_each_string (value : Json) :
    ((each string).apply value).strings = value.strings := by
  simp [Json.strings, List.filterMap_map]

@[simp] theorem fields_object (value : Json) : (object.apply value).fields = value.fields := by
  cases value <;> rfl

@[simp] theorem isObject_fields (rules : List (String × Rule)) (value : Json) :
    ((fields rules).apply value).isObject = value.isObject := by
  cases value <;> rfl

@[simp] theorem values_header (value : Json) :
    Header.values (header.apply value) = Header.values value := by
  cases value with
  | array items => exact strings_each_string (.array items)
  | _ => rfl

@[simp] theorem listOfJson_headers (value : Json) :
    Header.listOfJson (headers.apply value) = Header.listOfJson value := by
  cases value with
  | object fields => simp [headers, Header.listOfJson, Json.fields, List.flatMap_map]
  | _ => rfl

@[simp] theorem ofName_nil (name : String) (value : Json) : ofName [] name value = value := rfl

@[simp] theorem ofName_cons (other : String) (rule : Rule) (rules : List (String × Rule))
    (name : String) (value : Json) :
    ofName ((other, rule) :: rules) name value =
      if name = other then rule.apply value else ofName rules name value := by
  by_cases same : name = other
  · simp [ofName, same]
  · rw [ofName, lookup_cons_of_ne same, if_neg same, ofName]

theorem ofName_null (rules : List (String × Rule)) (name : String) :
    ofName rules name .null = .null := by
  unfold ofName
  cases rules.lookup name with
  | none => rfl
  | some rule => exact rule.apply_null

theorem fields_fields (rules : List (String × Rule)) (doc : Json) :
    ((fields rules).apply doc).fields =
      doc.fields.map fun (name, value) => (name, ofName rules name value) := by
  cases doc <;> rfl

/-- A field that is absent stays absent, and any other is regarded by the rule for it. -/
@[simp] theorem field_fields (rules : List (String × Rule)) (name : String) (doc : Json) :
    ((fields rules).apply doc).field name = ofName rules name (doc.field name) := by
  rw [Json.field, Json.field, fields_fields, lookup_map_named]
  cases doc.fields.lookup name with
  | none => exact (ofName_null rules name).symm
  | some value => rfl

end Rule

namespace Client

/-- The fields of a client. -/
def rules : List (String × Rule) :=
  [("email", .string), ("id", .string), ("password", .string), ("security", .string),
    ("flow", .string), ("enable", .bool), ("limitIp", .integer), ("totalGB", .integer),
    ("expiryTime", .integer), ("tgId", .integer), ("subId", .string), ("comment", .string),
    ("reset", .integer), ("created_at", .integer), ("updated_at", .integer)]

/-- The values that are taken for integers, in their order. -/
def integers (doc : Json) : List Json :=
  ["limitIp", "totalGB", "expiryTime", "tgId", "reset", "created_at", "updated_at"].map
    fun name => doc.field name

theorem absorbs_ofJson (doc : Json) :
    Json.Absorbs (ofJson doc) (ofJson ((Rule.fields rules).apply doc)) (integers doc) := by
  simp only [ofJson, rules, Rule.field_fields, Rule.ofName_cons, String.reduceEq, if_true, if_false,
    Rule.stringOr_string, Rule.boolOr_bool]
  have integer := Json.absorbs_integerOrZero
  exact (integer _).bind fun _ => (integer _).bind fun _ => (integer _).bind fun _ =>
    (integer _).bind fun _ => (integer _).bind fun _ => (integer _).bind fun _ =>
    (integer _).map _

end Client

namespace Traffic

/-- The fields of a traffic record. -/
def rules : List (String × Rule) :=
  [("email", .string), ("enable", .bool), ("up", .integer), ("down", .integer),
    ("total", .integer), ("expiryTime", .integer)]

/-- The values that are taken for integers, in their order. -/
def integers (doc : Json) : List Json :=
  ["up", "down", "total", "expiryTime"].map fun name => doc.field name

theorem absorbs_ofJson (doc : Json) :
    Json.Absorbs (ofJson doc) (ofJson ((Rule.fields rules).apply doc)) (integers doc) := by
  simp only [ofJson, rules, Rule.field_fields, Rule.ofName_cons, String.reduceEq, if_true, if_false,
    Rule.stringOr_string, Rule.boolOr_bool]
  have integer := Json.absorbs_integerOrZero
  exact (integer _).bind fun _ => (integer _).bind fun _ => (integer _).bind fun _ =>
    (integer _).map _

end Traffic

/-- The objects among the items of an array are read one after another. -/
theorem absorbs_objects {α : Type} {read : Json → Except Fault α} {rules : List (String × Rule)}
    {integers : Json → List Json}
    (absorbs : ∀ doc, Json.Absorbs (read doc) (read ((Rule.fields rules).apply doc)) (integers doc))
    (value : Json) :
    Json.Absorbs ((value.items.filter Json.isObject).mapM read)
      ((((Rule.each (.fields rules)).apply value).items.filter Json.isObject).mapM read)
      ((value.items.filter Json.isObject).flatMap integers) := by
  have objects : ((Rule.each (.fields rules)).apply value).items.filter Json.isObject =
      (value.items.filter Json.isObject).map (Rule.fields rules).apply := by
    rw [Rule.items_each, List.filter_map]
    congr 1
    exact List.filter_congr fun item _ => Rule.isObject_fields rules item
  rw [objects]
  exact Json.absorbs_mapM absorbs _

namespace Settings

/-- The fields of settings. -/
def rules : List (String × Rule) :=
  [("clients", .each (.fields Client.rules)), ("method", .string), ("password", .string),
    ("encryption", .string)]

/-- The values that are taken for integers, in their order. -/
def integers (doc : Json) : List Json :=
  ((doc.field "clients").items.filter Json.isObject).flatMap Client.integers

theorem extra_regular (doc : Json) :
    ((Rule.fields rules).apply doc).fields.filter (fun (name, _) => !knownNames.contains name) =
      doc.fields.filter fun (name, _) => !knownNames.contains name := by
  have kept : ∀ field ∈ doc.fields.filter (fun (name, _) => !knownNames.contains name),
      (field.1, Rule.ofName rules field.1 field.2) = field := by
    intro field unknown
    have noRule : field.1 ∉ rules.map (·.1) := by
      simpa [rules, knownNames] using (List.mem_filter.mp unknown).2
    rw [Rule.ofName, lookup_eq_none_of_not_mem noRule]
    rfl
  rw [Rule.fields_fields, List.filter_map]
  exact (List.map_congr_left kept).trans (List.map_id _)

theorem absorbs_ofJson (doc : Json) :
    Json.Absorbs (ofJson doc) (ofJson ((Rule.fields rules).apply doc)) (integers doc) := by
  simp only [ofJson, extra_regular, Rule.field_fields]
  simp only [rules, Rule.ofName_cons, String.reduceEq, if_true, if_false, Rule.stringOr_string,
    Rule.string?_string]
  exact (absorbs_objects Client.absorbs_ofJson _).map _

end Settings

namespace Tcp

/-- The fields of the settings of plain TCP. -/
def rules : List (String × Rule) :=
  [("header", .fields [("type", .string),
    ("request", .fields [("path", .each .string), ("headers", .headers)])])]

theorem ofJson_regular (doc : Json) : ofJson ((Rule.fields rules).apply doc) = ofJson doc := by
  simp [ofJson, rules]

end Tcp

namespace Kcp

/-- The fields of the settings of reliable UDP. -/
def rules : List (String × Rule) :=
  [("header", .fields [("type", .string)]), ("seed", .string)]

theorem ofJson_regular (doc : Json) : ofJson ((Rule.fields rules).apply doc) = ofJson doc := by
  simp [ofJson, rules]

end Kcp

namespace HttpRoute

/-- The fields that the transports have in common which start as an HTTP request. -/
def rules : List (String × Rule) :=
  [("path", .string), ("host", .string), ("headers", .headers)]

theorem ofJson_regular (doc : Json) : ofJson ((Rule.fields rules).apply doc) = ofJson doc := by
  simp [ofJson, rules]

end HttpRoute

namespace XHttp

/-- The fields of the settings of HTTP in both directions. -/
def rules : List (String × Rule) :=
  HttpRoute.rules ++ [("mode", .string)]

theorem ofJson_regular (doc : Json) : ofJson ((Rule.fields rules).apply doc) = ofJson doc := by
  simp [ofJson, HttpRoute.ofJson, rules, HttpRoute.rules]

end XHttp

namespace Grpc

/-- The fields of the settings of remote procedure calls. -/
def rules : List (String × Rule) :=
  [("serviceName", .string), ("authority", .string), ("multiMode", .bool)]

theorem ofJson_regular (doc : Json) : ofJson ((Rule.fields rules).apply doc) = ofJson doc := by
  simp [ofJson, rules]

end Grpc

/-- Any object has its fields searched; without one there are none. -/
theorem Tls.ofJson_regular (doc : Json) : ofJson (Rule.object.apply doc) = ofJson doc := by
  simp [ofJson]

theorem Reality.ofJson_regular (doc : Json) : ofJson (Rule.object.apply doc) = ofJson doc := by
  cases doc <;> rfl

namespace Endpoint

/-- The fields of an endpoint. -/
def rules : List (String × Rule) :=
  [("forceTls", .string), ("dest", .string), ("port", .integer), ("remark", .string)]

/-- The values that are taken for integers, in their order. -/
def integers (doc : Json) : List Json :=
  [doc.field "port"]

theorem absorbs_ofJson? (doc : Json) :
    Json.Absorbs (ofJson? doc) (ofJson? ((Rule.fields rules).apply doc)) (integers doc) := by
  unfold ofJson?
  rw [Rule.isObject_fields]
  cases object : doc.isObject with
  | false =>
    have none : doc.field "port" = .null := by
      cases doc with
      | object => cases object
      | _ => rfl
    exact ⟨_, rfl, by rw [integers, none]; rfl⟩
  | true =>
    simp only [rules, Rule.field_fields, Rule.ofName_cons, String.reduceEq, if_true, if_false,
      Rule.stringOr_string]
    exact (Json.absorbs_integerOrZero _).map _

theorem absorbs_listOfJson (doc : Json) :
    Json.Absorbs (listOfJson doc.items)
      (listOfJson ((Rule.each (.fields rules)).apply doc).items) (doc.items.flatMap integers) := by
  rw [listOfJson, listOfJson, Rule.items_each]
  exact (Json.absorbs_mapM absorbs_ofJson? doc.items).map _

end Endpoint

namespace Stream

/-- The fields of a stream. Those of the two kinds of security are looked for at any depth and have
no rules of their own. -/
def rules : List (String × Rule) :=
  [("network", .string), ("security", .string), ("externalProxy", .each (.fields Endpoint.rules)),
    ("tcpSettings", .fields Tcp.rules), ("kcpSettings", .fields Kcp.rules),
    ("wsSettings", .fields HttpRoute.rules), ("grpcSettings", .fields Grpc.rules),
    ("httpupgradeSettings", .fields HttpRoute.rules), ("xhttpSettings", .fields XHttp.rules),
    ("tlsSettings", .object), ("realitySettings", .object)]

/-- The values that are taken for integers, in their order. -/
def integers (doc : Json) : List Json :=
  (doc.field "externalProxy").items.flatMap Endpoint.integers

theorem absorbs_ofJson (doc : Json) :
    Json.Absorbs (ofJson doc) (ofJson ((Rule.fields rules).apply doc)) (integers doc) := by
  simp only [ofJson, rules, Rule.field_fields, Rule.ofName_cons, String.reduceEq, if_true, if_false,
    Rule.stringOr_string, Tcp.ofJson_regular, Kcp.ofJson_regular, HttpRoute.ofJson_regular,
    Grpc.ofJson_regular, XHttp.ofJson_regular, Tls.ofJson_regular, Reality.ofJson_regular]
  exact (Endpoint.absorbs_listOfJson _).map _

end Stream

namespace Blob

/-- The text of a part that is not decoded yet. -/
def text? : Blob → Option (List Char)
  | .value (.string s) => some s.toList
  | .value _ => none
  | .bytes content => some (Text.Utf8.decodeLossy content)

/-- A part is refused: it is text that is not blank and cannot be read as JSON. -/
def IsRefused (b : Blob) (refusal : Json.Refusal) : Prop :=
  ∃ cs, b.text? = some cs ∧ Text.trim cs ≠ [] ∧ Json.parse cs = .error refusal

def IsWellFormed (b : Blob) : Prop :=
  ∀ refusal, ¬ b.IsRefused refusal

/-- The object that is stored under the named field, without fields if it cannot be decoded. -/
def doc (field : String) (b : Blob) : Json :=
  (b.decode field).toOption.getD (.object [])

theorem decode_of_text? {b : Blob} {cs : List Char} (text : b.text? = some cs) (field : String) :
    b.decode field = decodeText field cs := by
  match b with
  | .value (.string s) =>
    cases text
    rfl
  | .bytes content =>
    cases text
    rfl
  | .value .null | .value (.bool _) | .value (.int _) | .value (.float _) | .value (.array _)
  | .value (.object _) => cases text

theorem decode_of_isRefused {b : Blob} {refusal : Json.Refusal} (h : b.IsRefused refusal)
    (field : String) : b.decode field = .error (refusal.fault field) := by
  obtain ⟨cs, text, notBlank, refused⟩ := h
  have filled : (Text.trim cs).isEmpty = false := List.isEmpty_eq_false_iff.mpr notBlank
  rw [decode_of_text? text, decodeText, filled, refused]
  rfl

theorem IsWellFormed.decode {b : Blob} (h : b.IsWellFormed) (field : String) :
    b.decode field = .ok (b.doc field) ∧ (b.doc field).isObject = true := by
  have decoded : ∃ fields, b.decode field = .ok (.object fields) := by
    cases text : b.text? with
    | none =>
      match b with
      | .value (.object fields) => exact ⟨fields, rfl⟩
      | .value .null | .value (.bool _) | .value (.int _) | .value (.float _)
      | .value (.array _) => exact ⟨[], rfl⟩
    | some cs =>
      rw [decode_of_text? text, decodeText]
      by_cases blank : (Text.trim cs).isEmpty = true
      · exact ⟨[], if_pos blank⟩
      · rw [if_neg blank]
        cases parsed : Json.parse cs with
        | ok doc => exact ⟨doc.fields, rfl⟩
        | error refusal =>
          exact absurd ⟨cs, text, fun empty => blank (List.isEmpty_iff.mpr empty), parsed⟩
            (h refusal)
  obtain ⟨fields, decoded⟩ := decoded
  rw [doc, decoded]
  exact ⟨rfl, rfl⟩

theorem decode_of_isObject {doc : Json} (h : doc.isObject = true) (field : String) :
    (Blob.value doc).decode field = .ok doc := by
  cases doc with
  | object => rfl
  | _ => cases h

end Blob

namespace Record

/-- The fields of a record beside those that are decoded once more. -/
def rules : List (String × Rule) :=
  [("id", .integer), ("port", .integer), ("protocol", .string), ("remark", .string),
    ("clientStats", .each (.fields Traffic.rules))]

/-- The record with null for every value of a wrong type. -/
def regular (r : Record) : Record where
  doc := (Rule.fields rules).apply r.doc
  settings := .value ((Rule.fields Settings.rules).apply (r.settings.doc "settings"))
  stream := .value ((Rule.fields Stream.rules).apply (r.stream.doc "streamSettings"))

/-- The values that are taken for integers, in the order in which they are read. -/
def integers (r : Record) : List Json :=
  [r.doc.field "id"] ++ ([r.doc.field "port"] ++ (Settings.integers (r.settings.doc "settings") ++
    (Stream.integers (r.stream.doc "streamSettings") ++
      ((r.doc.field "clientStats").items.filter Json.isObject).flatMap Traffic.integers)))

end Record

namespace Inbound

theorem absorbs_ofRecord {r : Record} (settings : r.settings.IsWellFormed)
    (stream : r.stream.IsWellFormed) :
    Json.Absorbs (ofRecord r) (ofRecord r.regular) r.integers := by
  obtain ⟨settingsDoc, settingsObject⟩ := settings.decode "settings"
  obtain ⟨streamDoc, streamObject⟩ := stream.decode "streamSettings"
  have settingsRegular : r.regular.settings.decode "settings" = .ok _ :=
    Blob.decode_of_isObject ((Rule.isObject_fields _ _).trans settingsObject) _
  have streamRegular : r.regular.stream.decode "streamSettings" = .ok _ :=
    Blob.decode_of_isObject ((Rule.isObject_fields _ _).trans streamObject) _
  have field (name : String) :
      r.regular.doc.field name = Rule.ofName Record.rules name (r.doc.field name) :=
    Rule.field_fields _ _ _
  unfold ofRecord readFront
  rw [settingsDoc, streamDoc, settingsRegular, streamRegular]
  simp only [field, Record.rules, Rule.ofName_cons, String.reduceEq, if_true, if_false,
    Rule.stringOr_string, bind_assoc, pure_bind]
  have integer := Json.absorbs_integerOrZero
  exact (integer _).bind fun _ => (integer _).bind fun _ =>
    (Settings.absorbs_ofJson _).bind fun _ => (Stream.absorbs_ofJson _).bind fun _ =>
    (absorbs_objects Traffic.absorbs_ofJson _).map _

/-- A record whose settings cannot be decoded is refused with the reason. -/
theorem ofRecord_of_settings {r : Record} {refusal : Json.Refusal}
    (settings : r.settings.IsRefused refusal) :
    ofRecord r = .error (refusal.fault "settings") := by
  unfold ofRecord readFront
  rw [Blob.decode_of_isRefused settings]
  rfl

theorem ofRecord_of_stream {r : Record} {refusal : Json.Refusal}
    (settings : r.settings.IsWellFormed) (stream : r.stream.IsRefused refusal) :
    ofRecord r = .error (refusal.fault "streamSettings") := by
  unfold ofRecord readFront
  rw [(settings.decode _).1, Blob.decode_of_isRefused stream]
  rfl

/-- A record is refused if the text of one of its two parts is not JSON, or has a numeral in it that
is too long; and otherwise as the first of the values is refused that are taken for integers.
Without such a value it is read, and as the record with null for every value of a wrong type. -/
theorem ofRecord_of_irregular (r : Record) :
    ((∀ error, r.settings.IsRefused (.malformed error) →
        ofRecord r = .error (.undecodable "settings" (.malformed error))) ∧
      ∀ digits, r.settings.IsRefused (.longNumeral digits) →
        ofRecord r = .error (.numeralTooLong digits 4300)) ∧
    (r.settings.IsWellFormed →
      (∀ error, r.stream.IsRefused (.malformed error) →
        ofRecord r = .error (.undecodable "streamSettings" (.malformed error))) ∧
      ∀ digits, r.stream.IsRefused (.longNumeral digits) →
        ofRecord r = .error (.numeralTooLong digits 4300)) ∧
    (r.settings.IsWellFormed → r.stream.IsWellFormed →
      ∃ i, ofRecord r.regular = .ok i ∧
        ofRecord r = match r.integers.findSome? Json.refusal? with
          | some fault => .error fault
          | none => .ok i) :=
  ⟨⟨fun _ refused => ofRecord_of_settings refused, fun _ refused => ofRecord_of_settings refused⟩,
    fun settings => ⟨fun _ refused => ofRecord_of_stream settings refused,
      fun _ refused => ofRecord_of_stream settings refused⟩, absorbs_ofRecord⟩

/-- A record with nothing in it but a port that is no number. -/
def nanPort : Record :=
  .ofJson (.object [("port", .float .nan)])

/-- The record is refused for its port. Were the port absent, it would be read as the inbound of
which nothing is known. -/
theorem nan_port_is_refused :
    nanPort.settings.IsWellFormed ∧ nanPort.stream.IsWellFormed ∧
      ofRecord nanPort = .error (.notFinite .nan) ∧
      ofRecord nanPort.regular = .ok { protocol := "" } := by
  have absent : (Blob.value .null).IsWellFormed := by
    rintro refusal ⟨cs, text, -⟩
    cases text
  obtain ⟨-, -, read⟩ := ofRecord_of_irregular nanPort
  obtain ⟨_, -, refused⟩ := read absent absent
  have first : nanPort.integers.findSome? Json.refusal? = some (.notFinite .nan) := rfl
  rw [first] at refused
  exact ⟨absent, absent, refused, rfl⟩

end Inbound

end ShareLinks
