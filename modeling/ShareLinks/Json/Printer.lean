import ShareLinks.Json.Basic
import ShareLinks.Number.Decimal
import ShareLinks.Text.Hex

/-!
Writing JSON text as `json.dumps` does, on one line or indented by two spaces, with characters
beyond ASCII escaped or as they are. The order of fields is kept.
-/

namespace ShareLinks.Json

structure Style where
  /-- Each item and field on a line of its own. -/
  indented : Bool
  /-- Only printable ASCII as it is, all else as escapes. -/
  ascii : Bool

def compact : Style := ⟨false, true⟩

def pretty : Style := ⟨true, true⟩

def unitEscape (n : Nat) : List Char :=
  '\\' :: 'u' :: Text.hexDigits 4 n

def charText (ascii : Bool) (c : Char) : List Char :=
  if c = '"' then ['\\', '"']
  else if c = '\\' then ['\\', '\\']
  else if c = '\n' then ['\\', 'n']
  else if c = '\r' then ['\\', 'r']
  else if c = '\t' then ['\\', 't']
  else if c = '\x08' then ['\\', 'b']
  else if c = '\x0c' then ['\\', 'f']
  else if c.toNat < 0x20 then unitEscape c.toNat
  else if c.toNat < 0x7f || !ascii then [c]
  else if c.toNat < 0x10000 then unitEscape c.toNat
  else
    let n := c.toNat - 0x10000
    unitEscape (0xD800 + n / 0x400) ++ unitEscape (0xDC00 + n % 0x400)

def stringText (ascii : Bool) (s : String) : List Char :=
  '"' :: s.toList.flatMap (charText ascii) ++ ['"']

def numberWords : Binary64.Spelling := ⟨"NaN", "Infinity"⟩

/-- What separates the parts of an array or object at a depth: the opening, the separation, and
the closing. -/
def Style.lineBreak (style : Style) (depth : Nat) : List Char :=
  if style.indented then '\n' :: List.replicate (2 * depth) ' ' else []

def Style.separator (style : Style) (depth : Nat) : List Char :=
  if style.indented then ',' :: style.lineBreak depth else [',', ' ']

mutual

def textAt (style : Style) (depth : Nat) : Json → List Char
  | .null => "null".toList
  | .bool b => (if b then "true" else "false").toList
  | .int n => integerText n
  | .float x => x.text numberWords
  | .string s => stringText style.ascii s
  | .array [] => ['[', ']']
  | .array (item :: items) =>
    '[' :: style.lineBreak (depth + 1) ++ textAt style (depth + 1) item ++
      itemsText style (depth + 1) items ++ style.lineBreak depth ++ [']']
  | .object [] => ['\x7b', '\x7d']
  | .object ((name, value) :: fields) =>
    '\x7b' :: style.lineBreak (depth + 1) ++ stringText style.ascii name ++ [':', ' '] ++
      textAt style (depth + 1) value ++ fieldsText style (depth + 1) fields ++
      style.lineBreak depth ++ ['\x7d']

/-- Items after the first, each with what stands before it. -/
def itemsText (style : Style) (depth : Nat) : List Json → List Char
  | [] => []
  | item :: items =>
    style.separator depth ++ textAt style depth item ++ itemsText style depth items

def fieldsText (style : Style) (depth : Nat) : List (String × Json) → List Char
  | [] => []
  | (name, value) :: fields =>
    style.separator depth ++ stringText style.ascii name ++ [':', ' '] ++
      textAt style depth value ++ fieldsText style depth fields

end

def text (style : Style) (value : Json) : List Char :=
  textAt style 0 value

def render (style : Style) (value : Json) : String :=
  String.ofList (value.text style)

example : (Json.object [("a", .array [.int 1, .null]), ("é", .bool true)]).text compact =
    "\x7b\"a\": [1, null], \"\\u00e9\": true\x7d".toList := by decide
example : (Json.array [.int 1, .object []]).text pretty = "[\n  1,\n  \x7b\x7d\n]".toList := by
  decide

end ShareLinks.Json
