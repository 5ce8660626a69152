import ShareLinks.Text.Table
import ShareLinks.Text.Composition.Classes
import ShareLinks.Text.Composition.Table

/-!
Canonical composition of text: composites are taken apart, runs of marks are put into the order
of their classes, and bases and marks are put together again as far as they go. Syllables of
Hangul are composed by arithmetic on their letters.
-/

namespace ShareLinks.Text

/-- The class of a mark, and zero for anything else. -/
def markClass (c : Char) : Nat :=
  ((markClasses.find? fun (first, last, _) => first ≤ c.toNat && c.toNat ≤ last).map
    fun (_, _, cls) => cls).getD 0

def hangulLetters? (c : Char) : Option (List Char) :=
  let s := c.toNat - 0xAC00
  if 0xAC00 ≤ c.toNat ∧ s < 11172 then
    let leadAndVowel := [Char.ofNat (0x1100 + s / 588), Char.ofNat (0x1161 + s % 588 / 28)]
    some (leadAndVowel ++ if s % 28 = 0 then [] else [Char.ofNat (0x11A7 + s % 28)])
  else none

/-- A character taken apart, at most `depth` times over. -/
def decomposeChar (depth : Nat) (c : Char) : List Char :=
  match depth with
  | 0 => [c]
  | depth + 1 =>
    if c.toNat < 0xC0 then [c]
    else match hangulLetters? c with
      | some letters => letters
      | none =>
        match (composites.image? c).or (decomposedOnly.image? c) with
        | some parts => parts.flatMap (decomposeChar depth)
        | none => [c]

/-- No character of the tables is made of parts more than this many times over. -/
def decompositionDepth : Nat := 4

/-- A mark put in front of the marks of a higher class that end the reversed text `done`. -/
def insertMark (cls : Nat) (c : Char) : List (Nat × Char) → List (Nat × Char)
  | (cls', c') :: done =>
    if cls < cls' then (cls', c') :: insertMark cls c done else (cls, c) :: (cls', c') :: done
  | [] => [(cls, c)]

def orderMarks (cs : List Char) : List (Nat × Char) :=
  (cs.foldl
    (fun done c =>
      let cls := markClass c
      if cls = 0 then (0, c) :: done else insertMark cls c done)
    []).reverse

def compose? (a b : Char) : Option Char :=
  let lead := a.toNat - 0x1100
  let vowel := b.toNat - 0x1161
  let syllable := a.toNat - 0xAC00
  let tail := b.toNat - 0x11A7
  if 0x1100 ≤ a.toNat ∧ lead < 19 ∧ 0x1161 ≤ b.toNat ∧ vowel < 21 then
    some (Char.ofNat (0xAC00 + (lead * 21 + vowel) * 28))
  else if 0xAC00 ≤ a.toNat ∧ syllable < 11172 ∧ syllable % 28 = 0 ∧
      0x11A7 < b.toNat ∧ tail < 28 then
    some (Char.ofNat (a.toNat + tail))
  else
    (composites.find? fun (_, parts) => parts == [a.toNat, b.toNat]).map
      fun (composite, _) => Char.ofNat composite

/-- Text being composed: what is finished, the last base if there is one, and the marks after it
that did not join it, nearest first. -/
structure Composing where
  finished : List Char
  base : Option Char
  pending : List (Nat × Char)

namespace Composing

def toList (s : Composing) : List Char :=
  s.finished ++ s.base.toList ++ (s.pending.reverse.map (·.2))

/-- Adds a character of a given class. It joins the base unless a character between them is of
the same or a higher class. -/
def add (s : Composing) (cls : Nat) (c : Char) : Composing :=
  let blocked := match s.pending with
    | [] => false
    | (last, _) :: _ => cls ≤ last
  let joined := if blocked then none else s.base.bind (compose? · c)
  match joined with
  | some composite => { s with base := some composite }
  | none =>
    if cls = 0 then ⟨s.toList, some c, []⟩
    else { s with pending := (cls, c) :: s.pending }

end Composing

def composed (cs : List Char) : List Char :=
  let parts := orderMarks (cs.flatMap (decomposeChar decompositionDepth))
  (parts.foldl (fun (s : Composing) (cls, c) => s.add cls c) ⟨[], none, []⟩).toList

end ShareLinks.Text
