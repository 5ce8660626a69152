/-!
Punycode: a text beyond ASCII as its ASCII characters and the insertions that restore the others.
An insertion says which code point goes where, as the distance that a counter of code points and
places has run since the one before; distances are written in base 36 with variable lengths, and
a bias that follows their size keeps them short.
-/

namespace ShareLinks.Host.Punycode

def digit (n : Nat) : Char :=
  if n < 26 then Char.ofNat ('a'.toNat + n) else Char.ofNat ('0'.toNat + (n - 26))

def digitValue? (c : Char) : Option Nat :=
  if 'a' ≤ c ∧ c ≤ 'z' then some (c.toNat - 'a'.toNat)
  else if 'A' ≤ c ∧ c ≤ 'Z' then some (c.toNat - 'A'.toNat)
  else if '0' ≤ c ∧ c ≤ '9' then some (c.toNat - '0'.toNat + 26)
  else none

/-- Digits below the threshold of their place end a distance. -/
def threshold (place bias : Nat) : Nat :=
  min 26 (max 1 (36 * (place + 1) - bias))

/-- A scaled distance brought below 456, and 36 for each step that this took. -/
def shrink (fuel distance steps : Nat) : Nat × Nat :=
  match fuel with
  | 0 => (distance, steps)
  | fuel + 1 =>
    if 455 < distance then shrink fuel (distance / 35) (steps + 36) else (distance, steps)

/-- The bias after a distance, for a text that has `size` characters by then. -/
def adapt (distance : Nat) (first : Bool) (size : Nat) : Nat :=
  let scaled := if first then distance / 700 else distance / 2
  let (rest, steps) := shrink distance (scaled + scaled / size) 0
  steps + 36 * rest / (rest + 38)

/-- A distance in digits, from a place on; the distance itself bounds their number. -/
def distanceText (fuel bias place distance : Nat) : List Char :=
  let t := threshold place bias
  match fuel with
  | 0 => [digit distance]
  | fuel + 1 =>
    if distance < t then [digit distance]
    else
      digit (t + (distance - t) % (36 - t)) ::
        distanceText fuel bias (place + 1) ((distance - t) / (36 - t))

/-- An insertion: a code point and how many characters stand before it when it goes in. -/
structure Insertion where
  code : Nat
  place : Nat

/-- Puts an insertion behind those of code points that are not larger. -/
def insertInOrder (x : Insertion) : List Insertion → List Insertion
  | [] => [x]
  | y :: ys => if y.code ≤ x.code then y :: insertInOrder x ys else x :: y :: ys

/-- The insertions of a text in order of code points and then of places. -/
def insertions (cs : List Char) : List Insertion :=
  let found := (List.range cs.length).filterMap fun i =>
    match cs[i]? with
    | some c =>
      if c.toNat < 0x80 then none
      else some ⟨c.toNat, (cs.take i).countP fun d => d.toNat ≤ c.toNat⟩
    | none => none
  found.foldl (fun done x => insertInOrder x done) []

/-- Where the counter of code points and places stands, the size of the text by then, and the
bias. -/
structure Counter where
  code : Nat
  place : Nat
  size : Nat
  bias : Nat

def Counter.after (start : Counter) (first : Bool) (distance : Nat) (x : Insertion) : Counter where
  code := x.code
  place := x.place + 1
  size := start.size + 1
  bias := adapt distance first (start.size + 1)

def insertionsText (first : Bool) (start : Counter) : List Insertion → List Char
  | [] => []
  | x :: xs =>
    let distance := (x.code - start.code) * (start.size + 1) + x.place - start.place
    distanceText distance start.bias 0 distance ++
      insertionsText false (start.after first distance x) xs

def encode (cs : List Char) : List Char :=
  let basic := cs.filter fun c => c.toNat < 0x80
  let extended := insertionsText true ⟨0x80, 0, basic.length, 72⟩ (insertions cs)
  if basic.isEmpty then extended else basic ++ '-' :: extended

def readDistance (bias : Nat) (place weight sum : Nat) : List Char → Option (Nat × List Char)
  | [] => none
  | c :: rest => do
    let d ← digitValue? c
    let t := threshold place bias
    if d < t then pure (sum + d * weight, rest)
    else readDistance bias (place + 1) (weight * (36 - t)) (sum + d * weight) rest

/-- The code points of a text from a counter on, the insertions carried out on `done`. -/
def readInsertions (fuel : Nat) (first : Bool) (start : Counter) (done : List Nat)
    (digits : List Char) : Option (List Nat) :=
  match fuel, digits with
  | _, [] => some done
  | 0, _ => none
  | fuel + 1, _ => do
    let (distance, rest) ← readDistance start.bias 0 1 0 digits
    let total := start.place + distance
    let x : Insertion := ⟨start.code + total / (start.size + 1), total % (start.size + 1)⟩
    if 0x10FFFF < x.code then none
    else
      readInsertions fuel false (start.after first distance x)
        (done.take x.place ++ x.code :: done.drop x.place) rest

/-- The text of a Punycode; there is none for digits that do not end well, and for insertions of
code points that are not characters. -/
def decode? (cs : List Char) : Option (List Char) := do
  let extended := (cs.reverse.takeWhile (· != '-')).reverse
  let basic := cs.take (cs.length - extended.length - 1)
  let codes ← readInsertions extended.length true ⟨0x80, 0, basic.length, 72⟩
    (basic.map Char.toNat) extended
  if codes.all Nat.isValidChar then some (codes.map Char.ofNat) else none

example : encode "bücher".toList = "bcher-kva".toList := by decide
example : decode? "bcher-kva".toList = some "bücher".toList := by decide

end ShareLinks.Host.Punycode
