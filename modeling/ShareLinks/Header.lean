import ShareLinks.Json.Field
import ShareLinks.Text.Case

/-!
HTTP headers of a transport: `to_headers`, `get_header` and `search_host` of `xraylink.util`. A
document gives a header's value as a string or as a list of them; what is no string is passed
over. Names are compared without regard to case.
-/

namespace ShareLinks

structure Header where
  name : String
  value : String
  deriving DecidableEq

namespace Header

def values : Json → List String
  | .string s => [s]
  | value => value.strings

/-- The headers of a document in order, a header with several values repeated for each. -/
def listOfJson (doc : Json) : List Header :=
  doc.fields.flatMap fun (name, value) => (values value).map fun v => ⟨name, v⟩

/-- Whether two names are equal but for case. -/
def sameName (a b : String) : Bool :=
  Text.lower a.toList == Text.lower b.toList

def find? (name : String) (headers : List Header) : Option String :=
  (headers.find? fun h => sameName h.name name).map (·.value)

/-- The value of the first host header, empty when there is none. -/
def host (headers : List Header) : String :=
  (find? "host" headers).getD ""

end Header
end ShareLinks
