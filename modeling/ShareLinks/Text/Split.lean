/-!
Splitting text at separators. Every separator ends one piece and begins the next, so a text with
`n` separators has `n + 1` pieces, empty ones included.
-/

namespace ShareLinks.Text

/-- The pieces between separators, in order; a text without a separator is its own only piece. -/
def splitOn (isSeparator : Char → Bool) (cs : List Char) : List (List Char) :=
  cs.foldr
    (fun c pieces =>
      if isSeparator c then [] :: pieces
      else (c :: pieces.headD []) :: pieces.tail)
    [[]]

@[simp] theorem splitOn_nil (isSeparator : Char → Bool) : splitOn isSeparator [] = [[]] := rfl

theorem splitOn_cons (isSeparator : Char → Bool) (c : Char) (cs : List Char) :
    splitOn isSeparator (c :: cs) =
      if isSeparator c then [] :: splitOn isSeparator cs
      else (c :: (splitOn isSeparator cs).headD []) :: (splitOn isSeparator cs).tail := rfl

theorem splitOn_ne_nil (isSeparator : Char → Bool) (cs : List Char) :
    splitOn isSeparator cs ≠ [] := by
  cases cs with
  | nil => simp
  | cons c cs =>
    rw [splitOn_cons]
    split <;> simp

example : splitOn (· == '.') "a..b".toList = [['a'], [], ['b']] := by decide

end ShareLinks.Text
