import ShareLinks.Fault

/-!
Randomness as an endless supply of 32-bit words, used up one after another, from which
`RandomUtil` of `xraylink.util` draws. Whoever draws gets the words from the next unused one on,
and hands on the supply with those words used, so what was drawn and how much of it can be read
off the supply.
-/

namespace ShareLinks

open scoped CorePowers

/-- A supply of words, and how many of them are used up. -/
structure Source where
  words : Nat → Nat
  used : Nat

namespace Source

def word (s : Source) (i : Nat) : Nat :=
  s.words (s.used + i) % 2 ^ (32 : Nat)

def advance (s : Source) (n : Nat) : Source :=
  { s with used := s.used + n }

def ofWords (words : List Nat) : Source where
  words i := words.getD (i % words.length) 0
  used := 0

/-- An index below `n`; nothing is drawn where there is none. -/
def below (n : Nat) (s : Source) : Except Fault Nat × Source :=
  if n = 0 then (.error .emptyRange, s) else (.ok (s.word 0 % n), s.advance 1)

/-- One of some strings, with the same index for the same word. -/
def pick (items : List String) (s : Source) : Except Fault String × Source :=
  let (index, s) := below items.length s
  (index.map fun i => items.getD i "", s)

def alphabet : List Char :=
  "abcdefghijklmnopqrstuvwxyz0123456789ABCDEFGHIJKLMNOPQRSTUVWXYZ".toList

def letter (word : Nat) : Char :=
  alphabet.getD (word % 62) 'a'

/-- A string of generated characters, one word for each. -/
def letters (count : Nat) (s : Source) : String × Source :=
  (String.ofList ((List.range count).map fun i => letter (s.word i)), s.advance count)

/-- The number of the next four words, the first most significant. -/
def wide (s : Source) : Nat :=
  ((s.word 0 * 2 ^ (32 : Nat) + s.word 1) * 2 ^ (32 : Nat) + s.word 2) * 2 ^ (32 : Nat) + s.word 3

/-- A number of 128 bits as a random identifier: six of its bits give way to version and variant,
and the rest is written in five groups of hexadecimal digits. -/
def identifierText (n : Nat) : List Char :=
  Text.hexDigits 8 (n / 2 ^ (96 : Nat)) ++ '-' :: Text.hexDigits 4 (n / 2 ^ (80 : Nat)) ++
    '-' :: '4' :: Text.hexDigits 3 (n / 2 ^ (64 : Nat)) ++
    '-' :: Text.hexDigits 4 (0x8000 + n / 2 ^ (48 : Nat) % 0x4000) ++ '-' :: Text.hexDigits 12 n

def identifier (s : Source) : String × Source :=
  (String.ofList (identifierText s.wide), s.advance 4)

@[simp] theorem used_advance (s : Source) (n : Nat) : (s.advance n).used = s.used + n := rfl

theorem alphabet_length : alphabet.length = 62 := by decide

example : identifierText (2 ^ 128 - 1) = "ffffffff-ffff-4fff-bfff-ffffffffffff".toList := by decide
example : ((ofWords [0, 61, 62]).letters 4).1 = "aZaa" := by decide

end Source
end ShareLinks
