import ShareLinks.Json.Basic

/-!
Looking for a field by name at any depth of a document: `search_key` of `xraylink.util`. Fields
are visited in the order of the text: a field before the fields inside its value, and those
before the field after it.
-/

namespace ShareLinks.Json

mutual

def search? (name : String) : Json → Option Json
  | .array items => searchItems? name items
  | .object fields => searchFields? name fields
  | _ => none

def searchItems? (name : String) : List Json → Option Json
  | [] => none
  | item :: items => (search? name item).or (searchItems? name items)

/-- The first field of a name among some fields and what is inside them. -/
def searchFields? (name : String) : List (String × Json) → Option Json
  | [] => none
  | (other, value) :: fields =>
    if other = name then some value
    else (search? name value).or (searchFields? name fields)

end

/-- The value of the first field of a name, and null if there is none. -/
def search (name : String) (value : Json) : Json :=
  (value.search? name).getD .null

end ShareLinks.Json
