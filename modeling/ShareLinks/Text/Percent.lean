import ShareLinks.Text.Utf8

/-!
Percent encoding of text, byte by byte over its UTF-8 encoding, with a choice of the characters
that stay as they are, which is what `quote` does; and the form encoding of queries, which
differs in writing a space as `+`.
-/

namespace ShareLinks.Text

/-- Letters and digits of ASCII and four marks: the characters that no part of a link escapes. -/
def isUnreserved (c : Char) : Bool :=
  c.isAlphanum || c == '_' || c == '.' || c == '-' || c == '~'

def percentByte (b : UInt8) : List Char :=
  ['%', (Nat.digitChar (b.toNat / 16)).toUpper, (Nat.digitChar (b.toNat % 16)).toUpper]

def percentChar (keep : Char → Bool) (c : Char) : List Char :=
  if keep c then [c] else (String.utf8EncodeChar c).flatMap percentByte

def percentEncode (keep : Char → Bool) (cs : List Char) : List Char :=
  cs.flatMap (percentChar keep)

def formEncode (cs : List Char) : List Char :=
  cs.flatMap fun c => if c = ' ' then ['+'] else percentChar isUnreserved c

def formEncodeAll (pairs : List (String × String)) : List Char :=
  ['&'].intercalate (pairs.map fun (name, value) =>
    formEncode name.toList ++ '=' :: formEncode value.toList)

example : String.ofList (percentEncode isUnreserved ['a', '%', 'é']) = "a%25%C3%A9" := by decide
example : formEncodeAll [("path", "/a b"), ("x", "")] = "path=%2Fa+b&x=".toList := by decide

end ShareLinks.Text
