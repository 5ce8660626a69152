import ShareLinks.Text.Table

/-!
Tables of mark classes, written as text: words such as `300-314=E6` give a range of code points
the class on the right.
-/

namespace ShareLinks.Text

/-- Closed ranges of code points with the class of their marks. -/
abbrev Classes := List (Nat × Nat × Nat)

def readClasses (text : String) : Classes :=
  (tableWords text).map fun word =>
    match splitOn (· == '=') word with
    | [range, cls] =>
      match splitOn (· == '-') range with
      | [first, last] => (readHex first, readHex last, readHex cls)
      | _ => (readHex range, readHex range, readHex cls)
    | _ => (readHex word, readHex word, 0)

example : readClasses "300-314=E6 345=F0" = [(0x300, 0x314, 230), (0x345, 0x345, 240)] := by
  decide

end ShareLinks.Text
