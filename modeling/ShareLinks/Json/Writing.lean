import ShareLinks.Fault
import ShareLinks.Json.Printer

/-!
Writing documents that are to be read again. A numeral may not be longer than those that can be
read, so a document with a longer one anywhere in it is not written at all: there `json.dumps`
raises an error.
-/

namespace ShareLinks.Json

mutual

/-- Whether all integers in a document have numerals that can be read. -/
def isWritable : Json → Bool
  | .int n => Text.isReadable n
  | .array items => areWritable items
  | .object fields => haveWritable fields
  | _ => true

def areWritable : List Json → Bool
  | [] => true
  | item :: items => item.isWritable && areWritable items

def haveWritable : List (String × Json) → Bool
  | [] => true
  | (_, value) :: fields => value.isWritable && haveWritable fields

end

def write (style : Style) (value : Json) : Except Fault String :=
  if value.isWritable then .ok (value.render style) else .error (.integerTooLong Text.maxDigits)

theorem write_eq_ok_iff (style : Style) (value : Json) (s : String) :
    value.write style = .ok s ↔ value.isWritable = true ∧ s = value.render style := by
  cases h : value.isWritable <;> simp [write, h, eq_comm]

example : (Json.object [("a", .array [.int (10 ^ 20)])]).isWritable = true := by decide +kernel
example : (Json.array [.null, .int (-(10 ^ 4300))]).isWritable = false := by decide +kernel

end ShareLinks.Json
