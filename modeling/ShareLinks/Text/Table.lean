import ShareLinks.Text.Hex
import ShareLinks.Text.Split

/-!
Tables of code points, written as text. A table of ranges lists words such as `41-5A` or `B5` in
hexadecimal; a table of mappings lists words such as `C0=41,300`, which send the code point on
the left to those on the right. Words are separated by blanks and line ends.
-/

namespace ShareLinks.Text

/-- A hexadecimal numeral; what is no digit in it counts as zero. -/
def readHex (cs : List Char) : Nat :=
  cs.foldl (fun n c => 16 * n + (hexValue? c).getD 0) 0

def tableWords (text : String) : List (List Char) :=
  (splitOn (fun c => c == ' ' || c == '\n') text.toList).filter fun word => !word.isEmpty

/-- Closed ranges of code points. -/
abbrev Ranges := List (Nat × Nat)

def readRanges (text : String) : Ranges :=
  (tableWords text).map fun word =>
    match splitOn (· == '-') word with
    | [first, last] => (readHex first, readHex last)
    | _ => (readHex word, readHex word)

def Ranges.contains (ranges : Ranges) (c : Char) : Bool :=
  ranges.any fun (first, last) => first ≤ c.toNat && c.toNat ≤ last

/-- Code points and what they are sent to. -/
abbrev Mapping := List (Nat × List Nat)

def readMapping (text : String) : Mapping :=
  (tableWords text).map fun word =>
    match splitOn (· == '=') word with
    | [source, targets] => (readHex source, (splitOn (· == ',') targets).map readHex)
    | _ => (readHex word, [])

def Mapping.image? (mapping : Mapping) (c : Char) : Option (List Char) :=
  (mapping.lookup c.toNat).map fun targets => targets.map Char.ofNat

example : readRanges "41-5A B5" = [(0x41, 0x5A), (0xB5, 0xB5)] := by decide
example : (readMapping "DF=53,53").image? 'ß' = some ['S', 'S'] := by decide

end ShareLinks.Text
