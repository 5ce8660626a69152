import ShareLinks.Host.Label.Table
import ShareLinks.Host.Punycode
import ShareLinks.Text.Case
import ShareLinks.Text.Composition

/-!
Internationalized names of hosts and their ASCII form. A name is a sequence of labels between
dots of any script. Each label has to be in canonical composition, to keep its hyphens apart from
those of the ASCII form, to begin with something else than a mark, to hold only permitted
characters, some of them only beside certain others, and to be written in one direction.
-/

namespace ShareLinks.Host

open Text

inductive Direction where
  | left
  | right
  | arabic
  | arabicNumber
  | europeanNumber
  | separator
  | neutral
  | mark
  | boundary
  | unknown
  deriving DecidableEq

def direction (c : Char) : Direction :=
  if directionRight.contains c then .right
  else if directionArabic.contains c then .arabic
  else if directionArabicNumber.contains c then .arabicNumber
  else if directionEuropeanNumber.contains c then .europeanNumber
  else if directionSeparator.contains c then .separator
  else if directionNeutral.contains c then .neutral
  else if directionMark.contains c then .mark
  else if directionBoundary.contains c then .boundary
  else if directionUnknown.contains c then .unknown
  else .left

/-- Directions that make a label one of right-to-left writing. -/
def Direction.isRightward (d : Direction) : Bool :=
  d == .right || d == .arabic || d == .arabicNumber

/-- Whether characters of these directions may form a label. A label without right-to-left
characters always may; any other begins with a letter of that direction, has no letter of the
other one, does not mix digits, and ends in a letter or digit up to marks. -/
def directionsAgree (ds : List Direction) : Bool :=
  if ds.contains .unknown then false
  else if !ds.any Direction.isRightward then true
  else
    let first := ds.head?
    let last := ds.reverse.find? (· != .mark)
    (first == some .right || first == some .arabic) && !ds.contains .left &&
      !(ds.contains .arabicNumber && ds.contains .europeanNumber) &&
      (last == some .right || last == some .arabic || last == some .europeanNumber ||
        last == some .arabicNumber)

/-- The class of the marks that end a syllable without its vowel. -/
def viramaClass : Nat := 9

/-- Whether a joiner may stand between what comes before it, nearest first, and after it. The
joiner that separates also stands between letters that would join. -/
def joinerAllowed (separates : Bool) (before after : List Char) : Bool :=
  let joins (cs : List Char) (ranges : Ranges) :=
    match cs.dropWhile joiningTransparent.contains with
    | [] => false
    | c :: _ => ranges.contains c
  (before.head?.any fun c => markClass c == viramaClass) ||
    (separates && joins before joiningForward && joins after joiningBackward)

def isArabicDigit (c : Char) : Bool :=
  0x660 ≤ c.toNat && c.toNat ≤ 0x669

def isEasternDigit (c : Char) : Bool :=
  0x6F0 ≤ c.toNat && c.toNat ≤ 0x6F9

def allowedAt (label before : List Char) (c : Char) (after : List Char) : Bool :=
  permitted.contains c ||
    if c = '\u200c' then joinerAllowed true before after
    else if c = '\u200d' then joinerAllowed false before after
    else if c = '\u00b7' then before.head? == some 'l' && after.head? == some 'l'
    else if c = '\u0375' then after.head?.any greek.contains
    else if c = '\u05f3' || c = '\u05f4' then before.head?.any hebrew.contains
    else if c = '\u30fb' then label.any fun d => d != c && japanese.contains d
    else if isArabicDigit c then !label.any isEasternDigit
    else if isEasternDigit c then !label.any isArabicDigit
    else false

/-- Whether all characters are allowed where they stand; `before` is reversed. -/
def allAllowed (label before : List Char) : List Char → Bool
  | [] => true
  | c :: after => allowedAt label before c after && allAllowed label (c :: before) after

/-- Hyphens neither at an end nor in the third and fourth place. -/
def hyphensInPlace (label : List Char) : Bool :=
  (label.drop 2).take 2 != ['-', '-'] && label.head? != some '-' && label.getLast? != some '-'

def isLabel (label : List Char) : Bool :=
  !label.isEmpty && composed label == label && hyphensInPlace label &&
    !label.head?.any marks.contains && allAllowed label [] label &&
    directionsAgree (label.map direction)

def punycodeMark : List Char := ['x', 'n', '-', '-']

/-- A label that is ASCII already: either a label as it is, or the Punycode of one. -/
def isAsciiLabel (label : List Char) : Bool :=
  let lowered := label.map Char.toLower
  if punycodeMark.isPrefixOf lowered then
    let code := lowered.drop punycodeMark.length
    code.getLast?.any (· != '-') && (Punycode.decode? code).any isLabel
  else isLabel lowered

def maxLabelLength : Nat := 63

/-- The ASCII form of a label. No label is longer than its ASCII form, so one that is too long is
refused before anything else is looked at. -/
def asciiLabel? (label : List Char) : Option (List Char) := do
  guard (label.length ≤ maxLabelLength)
  let ascii ←
    if label.all fun c => c.toNat < 0x80 then
      if isAsciiLabel label then some label else none
    else if isLabel label then some (punycodeMark ++ Punycode.encode label)
    else none
  guard (ascii.length ≤ maxLabelLength)
  pure ascii

/-- The dots of all scripts. -/
def isDot (c : Char) : Bool :=
  c == '.' || c == '\u3002' || c == '\uff0e' || c == '\uff61'

/-- The ASCII form of a name: its labels between dots, with a dot at the end if it had one, of at
most 253 characters before that dot. -/
def asciiName? (name : List Char) : Option (List Char) := do
  let labels := splitOn isDot name
  let rooted := labels.getLast? == some []
  let labels := if rooted then labels.dropLast else labels
  let ascii ← labels.mapM asciiLabel?
  let text := ['.'].intercalate ascii
  if 253 < text.length then none
  else some (if rooted then text ++ ['.'] else text)

end ShareLinks.Host
