import ShareLinks.Stream.Transport

/-!
# The host among headers

Headers are named values in the order of a document, each with one string or several. The host is
the first string of a host header, whatever the letter case of its name. A header without any
string is no header at all, so it never hides one behind it.
-/

namespace ShareLinks

/-- The first string that a value gives: a string gives itself, and an array its first item that is
a string. Any other value gives none. -/
inductive LeadsWith : Json → String → Prop
  | whole (s : String) : LeadsWith (.string s) s
  | item {before after : List Json} {s : String} : (∀ t, .string t ∉ before) →
      LeadsWith (.array (before ++ .string s :: after)) s

/-- Whether a header is one that says the host. -/
def IsHostName (name : String) : Prop :=
  Text.lower name.toList = "host".toList

/-- The first string of a host header among some fields, in their order. -/
inductive NamesHost : Fields → String → Prop
  | here {name s : String} {value : Json} {fields : Fields} : IsHostName name → LeadsWith value s →
      NamesHost ((name, value) :: fields) s
  | later {name s : String} {value : Json} {fields : Fields} :
      (∀ t, ¬(IsHostName name ∧ LeadsWith value t)) → NamesHost fields s →
      NamesHost ((name, value) :: fields) s

/-- The host that a document of headers says, empty where none of them says any. -/
def IsHeaderHost (headers : Json) (host : String) : Prop :=
  NamesHost headers.fields host ∨ (∀ s, ¬NamesHost headers.fields s) ∧ host = ""

/-- The host of a transport: a string that is given and not empty, and otherwise that of the
headers. -/
def IsRouteHost (given headers : Json) (host : String) : Prop :=
  given = .string host ∧ host ≠ "" ∨ (∀ s, given = .string s → s = "") ∧ IsHeaderHost headers host

theorem Json.string?_eq_some_iff {value : Json} {s : String} :
    value.string? = some s ↔ value = .string s := by
  cases value <;> simp [string?]

theorem Json.string?_eq_none_iff {value : Json} :
    value.string? = none ↔ ∀ s, value ≠ .string s := by
  cases value <;> simp [string?]

namespace Header

variable {s : String}

theorem values_array (items : List Json) : values (.array items) = items.filterMap Json.string? :=
  rfl

theorem head?_values_eq_some_iff (value : Json) :
    (values value).head? = some s ↔ LeadsWith value s := by
  constructor
  · intro first
    cases value with
    | string t =>
      obtain rfl := Option.some.inj first
      exact .whole t
    | array items =>
      rw [values_array, List.head?_filterMap, List.findSome?_eq_some_iff] at first
      obtain ⟨before, found, after, rfl, string, others⟩ := first
      obtain rfl := Json.string?_eq_some_iff.mp string
      exact .item fun t ht => Json.string?_eq_none_iff.mp (others _ ht) t rfl
    | _ => cases first
  · rintro (_ | others)
    · rfl
    · rw [values_array, List.head?_filterMap, List.findSome?_eq_some_iff]
      refine ⟨_, _, _, rfl, rfl, fun other mem => Json.string?_eq_none_iff.mpr ?_⟩
      rintro t rfl
      exact others t mem

/-- The headers of some fields in order, a header with several values repeated for each. -/
def listOfFields (fields : Fields) : List Header :=
  fields.flatMap fun (name, value) => (values value).map fun v => ⟨name, v⟩

theorem sameName_host_iff (name : String) : sameName name "host" = true ↔ IsHostName name := by
  have lowered : Text.lower "host".toList = "host".toList := by decide
  rw [sameName, beq_iff_eq, lowered, IsHostName]

theorem find?_append (name : String) (headers more : List Header) :
    find? name (headers ++ more) = (find? name headers).or (find? name more) := by
  rw [find?, List.find?_append, Option.map_or]
  rfl

/-- Among the values of one field, what is found is the first, if the field has the name. -/
theorem find?_host_map (name : String) (strings : List String) :
    find? "host" (strings.map fun v => ⟨name, v⟩) = some s ↔
      IsHostName name ∧ strings.head? = some s := by
  rw [← sameName_host_iff, find?]
  by_cases same : sameName name "host" = true
  · cases strings <;> simp [same]
  · have absent : (strings.map fun v => (⟨name, v⟩ : Header)).find?
        (fun h => sameName h.name "host") = none := by
      simp [List.find?_eq_none, same]
    simp [absent, same]

theorem find?_host_eq_some_iff (fields : Fields) :
    find? "host" (listOfFields fields) = some s ↔ NamesHost fields s := by
  induction fields with
  | nil => exact iff_of_false (fun h => by cases h) (fun h => by cases h)
  | cons field fields ih =>
    obtain ⟨name, value⟩ := field
    have first (t : String) : find? "host" ((values value).map fun v => ⟨name, v⟩) = some t ↔
        IsHostName name ∧ LeadsWith value t := by
      rw [find?_host_map, head?_values_eq_some_iff]
    rw [listOfFields, List.flatMap_cons, find?_append, Option.or_eq_some_iff, first]
    constructor
    · rintro (⟨named, leads⟩ | ⟨none, found⟩)
      · exact .here named leads
      · refine .later (fun t given => ?_) (ih.mp found)
        cases none.symm.trans ((first t).mpr given)
    · rintro (⟨named, leads⟩ | ⟨others, rest⟩)
      · exact .inl ⟨named, leads⟩
      · refine .inr ⟨Option.eq_none_iff_forall_not_mem.mpr fun t found => ?_, ih.mpr rest⟩
        exact others t ((first t).mp found)

theorem host_eq_iff (headers : Json) (host : String) :
    Header.host (listOfJson headers) = host ↔ IsHeaderHost headers host := by
  have listed : listOfJson headers = listOfFields headers.fields := rfl
  rw [Header.host, listed, IsHeaderHost]
  simp only [← find?_host_eq_some_iff]
  cases find? "host" (listOfFields headers.fields) with
  | none => simp [eq_comm]
  | some found => simp

theorem listOfFields_of_no_string {before after : Fields} {field : String × Json}
    (empty : ∀ s, ¬LeadsWith field.2 s) :
    listOfFields (before ++ field :: after) = listOfFields (before ++ after) := by
  have none : values field.2 = [] := by
    rw [← List.head?_eq_none_iff, Option.eq_none_iff_forall_not_mem]
    exact fun s first => empty s ((head?_values_eq_some_iff _).mp first)
  simp [listOfFields, none]

end Header

theorem HttpRoute.host_eq_iff (settings : Json) (host : String) :
    (HttpRoute.ofJson settings).host = host ↔
      IsRouteHost (settings.field "host") (settings.field "headers") host := by
  have given : (HttpRoute.ofJson settings).host =
      if ((settings.field "host").stringOr "").isEmpty
      then Header.host (Header.listOfJson (settings.field "headers"))
      else (settings.field "host").stringOr "" := rfl
  rw [given, IsRouteHost, ← Header.host_eq_iff]
  cases settings.field "host" with
  | string s =>
    by_cases empty : s = ""
    · simp [Json.stringOr, Json.string?, empty]
    · simp only [Json.stringOr, Json.string?, Option.getD_some, String.isEmpty_iff,
        Json.string.injEq, forall_eq', empty, false_and, or_false]
      exact ⟨fun same => ⟨same, same ▸ empty⟩, And.left⟩
  | _ => simp [Json.stringOr, Json.string?]

/-- The host of every transport, for any document of headers and anything given as the host.

A given string that is not empty is the host of the transports that take one. Otherwise it is, like
the host of the transport that takes none, the first string of a host header in the order of the
document, and empty where there is none. A header without any string changes nothing, wherever it
stands. -/
theorem host_is_first_host_string :
    (∀ headers host, Header.host (Header.listOfJson headers) = host ↔ IsHeaderHost headers host) ∧
    (∀ settings host, (Tcp.ofJson settings).host = host ↔
      IsHeaderHost (((settings.field "header").field "request").field "headers") host) ∧
    (∀ settings host, (HttpRoute.ofJson settings).host = host ↔
      IsRouteHost (settings.field "host") (settings.field "headers") host) ∧
    (∀ settings host, (XHttp.ofJson settings).host = host ↔
      IsRouteHost (settings.field "host") (settings.field "headers") host) ∧
    ∀ before field after, (∀ s, ¬LeadsWith field.2 s) →
      Header.host (Header.listOfJson (.object (before ++ field :: after))) =
        Header.host (Header.listOfJson (.object (before ++ after))) := by
  refine ⟨Header.host_eq_iff, fun settings => Header.host_eq_iff _, HttpRoute.host_eq_iff,
    HttpRoute.host_eq_iff, fun before field after empty => ?_⟩
  exact congrArg Header.host (Header.listOfFields_of_no_string empty)

example : (HttpRoute.ofJson (.object [("host", .string ""), ("headers", .object [
    ("Host", .array [.null]), ("hosts", .string "a"), ("HOST", .array [.int 1, .string "b"]),
    ("host", .string "c")])])).host = "b" := by decide

end ShareLinks
