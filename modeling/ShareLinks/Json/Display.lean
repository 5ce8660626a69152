import ShareLinks.Json.Basic
import ShareLinks.Number.Decimal
import ShareLinks.Text.Quoted

/-!
How messages show a value of a document: strings quoted, the constants capitalized, and the parts
of arrays and objects on one line.
-/

namespace ShareLinks.Json

def displayWords : Binary64.Spelling := ⟨"nan", "inf"⟩

mutual

def display : Json → List Char
  | .null => "None".toList
  | .bool b => (if b then "True" else "False").toList
  | .int n => integerText n
  | .float x => x.text displayWords
  | .string s => Text.quoted s.toList
  | .array [] => ['[', ']']
  | .array (item :: items) => '[' :: display item ++ displayItems items ++ [']']
  | .object [] => ['\x7b', '\x7d']
  | .object ((name, value) :: fields) =>
    '\x7b' :: Text.quoted name.toList ++ [':', ' '] ++ display value ++ displayFields fields ++
      ['\x7d']

def displayItems : List Json → List Char
  | [] => []
  | item :: items => [',', ' '] ++ display item ++ displayItems items

def displayFields : List (String × Json) → List Char
  | [] => []
  | (name, value) :: fields =>
    [',', ' '] ++ Text.quoted name.toList ++ [':', ' '] ++ display value ++ displayFields fields

end

def displayed (value : Json) : String :=
  String.ofList value.display

example : (Json.array [.string "l", .bool true, .null]).display = "['l', True, None]".toList := by
  decide

end ShareLinks.Json
