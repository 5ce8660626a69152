import ShareLinks.Fault
import ShareLinks.Json.Basic
import ShareLinks.Text.Numeral

/-!
Tolerant access to decoded documents: `as_str`, `as_bool`, `as_int`, `as_dict`, `as_list` and
`as_str_list` of `xraylink.util`. A field that is absent, or whose value is of another type than
the one that is asked for, counts as not given, and the caller's default takes its place. Only
integers are read from more than one type: from numbers, whose fraction is dropped, and from
numerals in strings.
-/

namespace ShareLinks.Json

/-- The fields of an object, and none for any other value. -/
def fields : Json → Fields
  | .object fields => fields
  | _ => []

/-- The value of a field, null when there is none. -/
def field (name : String) (value : Json) : Json :=
  (value.fields.lookup name).getD .null

def string? : Json → Option String
  | .string s => some s
  | _ => none

def bool? : Json → Option Bool
  | .bool b => some b
  | _ => none

def items : Json → List Json
  | .array items => items
  | _ => []

def strings (value : Json) : List String :=
  value.items.filterMap string?

def isObject : Json → Bool
  | .object _ => true
  | _ => false

def number? : Json → Option Number
  | .int n => some (.int n)
  | .float x => some (.float x)
  | _ => none

/-- A string that holds digits, after any number of minus signs, is meant to be a numeral. -/
def isNumeral (cs : List Char) : Bool :=
  let digits := cs.dropWhile (· == '-')
  !digits.isEmpty && digits.all Text.isDigit

def integerOfString? (s : String) : Except Fault (Option Int) :=
  let cs := Text.trim s.toList
  if isNumeral cs then
    match Text.readInteger cs with
    | .ok n => .ok (some n)
    | .error .malformed => .error (.notNumeral (String.ofList cs))
    | .error (.tooLong digits) => .error (.numeralTooLong digits Text.maxDigits)
  else .ok none

def integer? : Json → Except Fault (Option Int)
  | .int n => .ok (some n)
  | .float x =>
    match x.truncate? with
    | some n => .ok (some n)
    | none => .error (.notFinite x)
  | .string s => integerOfString? s
  | _ => .ok none

def integerOrZero (value : Json) : Except Fault Int :=
  value.integer?.map fun n => n.getD 0

def stringOr (default : String) (value : Json) : String :=
  value.string?.getD default

def boolOr (default : Bool) (value : Json) : Bool :=
  value.bool?.getD default

end ShareLinks.Json
