import ShareLinks.Number.Binary64

/-!
JSON documents. Integers of any size and floating point numbers are different values, and an
object keeps its fields in the order of the document.
-/

namespace ShareLinks

inductive Json where
  | null
  | bool (b : Bool)
  | int (n : Int)
  | float (x : Binary64)
  | string (s : String)
  | array (items : List Json)
  | object (fields : List (String × Json))

abbrev Fields := List (String × Json)

namespace Fields

/-- Sets a field: in its place if there is one of that name, and at the end otherwise. -/
def put (name : String) (value : Json) : Fields → Fields
  | [] => [(name, value)]
  | (other, old) :: rest =>
    if other = name then (name, value) :: rest else (other, old) :: put name value rest

def names (fields : Fields) : List String :=
  fields.map (·.1)

theorem names_put (name : String) (value : Json) (fields : Fields) :
    names (put name value fields) =
      if name ∈ names fields then names fields else names fields ++ [name] := by
  induction fields with
  | nil => simp [put, names]
  | cons field rest ih =>
    obtain ⟨other, old⟩ := field
    by_cases h : other = name
    · simp [put, names, h]
    · have h' : name ≠ other := fun e => h e.symm
      by_cases hm : name ∈ names rest
      · simp_all [put, names]
      · simp_all [put, names]

end Fields

def Number.toJson : Number → Json
  | .int n => .int n
  | .float x => .float x

end ShareLinks
