/-!
UTF-8. Encoding is that of the characters one after another. Decoding goes from left to right;
where the bytes are not the encoding of a character it names the longest run that could have
begun one, which is either reported or replaced by a single replacement character.
-/

namespace ShareLinks.Text.Utf8

def encode (cs : List Char) : List UInt8 :=
  cs.flatMap String.utf8EncodeChar

inductive Cause where
  | startByte
  | continuationByte
  | endOfData
  deriving DecidableEq

/-- What stands at the front of some bytes, and how many of them it takes. -/
inductive Step where
  | char (c : Char) (size : Nat)
  | bad (size : Nat) (cause : Cause)

/-- A byte that continues a character. -/
def isTail (b : UInt8) : Bool :=
  0x80 ≤ b && b < 0xC0

def tailBits (b : UInt8) : Nat :=
  b.toNat % 64

/-- Whether a byte may come second after the first byte of a longer character: encodings that
are too long, surrogates and numbers beyond the last code point are excluded here. -/
def mayFollow (first second : UInt8) : Bool :=
  isTail second &&
    (first != 0xE0 || 0xA0 ≤ second) && (first != 0xED || second < 0xA0) &&
    (first != 0xF0 || 0x90 ≤ second) && (first != 0xF4 || second < 0x90)

/-- The front of a sequence that begins with the byte `b`. -/
def next (b : UInt8) (rest : List UInt8) : Step :=
  if b < 0x80 then .char (Char.ofNat b.toNat) 1
  else if b < 0xC2 || 0xF5 ≤ b then .bad 1 .startByte
  else match rest with
    | [] => .bad 1 .endOfData
    | second :: rest =>
      if !mayFollow b second then .bad 1 .continuationByte
      else if b < 0xE0 then .char (Char.ofNat (b.toNat % 32 * 64 + tailBits second)) 2
      else match rest with
        | [] => .bad 2 .endOfData
        | third :: rest =>
          if !isTail third then .bad 2 .continuationByte
          else if b < 0xF0 then
            .char (Char.ofNat ((b.toNat % 16 * 64 + tailBits second) * 64 + tailBits third)) 3
          else match rest with
            | [] => .bad 3 .endOfData
            | fourth :: _ =>
              if !isTail fourth then .bad 3 .continuationByte
              else .char (Char.ofNat (((b.toNat % 8 * 64 + tailBits second) * 64 +
                tailBits third) * 64 + tailBits fourth)) 4

/-- The characters after the first `skip` bytes, a replacement character for each bad run. -/
def decodeLossyFrom (skip : Nat) : List UInt8 → List Char
  | [] => []
  | b :: rest =>
    match skip with
    | skip + 1 => decodeLossyFrom skip rest
    | 0 =>
      match next b rest with
      | .char c size => c :: decodeLossyFrom (size - 1) rest
      | .bad size _ => '\ufffd' :: decodeLossyFrom (size - 1) rest

def decodeLossy (bytes : List UInt8) : List Char :=
  decodeLossyFrom 0 bytes

/-- The first run of bytes that encodes no character. -/
structure Fault where
  first : UInt8
  position : Nat
  size : Nat
  cause : Cause
  deriving DecidableEq

/-- The characters after the first `skip` bytes, which stand at `position`. -/
def decodeFrom (position skip : Nat) : List UInt8 → Except Fault (List Char)
  | [] => .ok []
  | b :: rest =>
    match skip with
    | skip + 1 => decodeFrom (position + 1) skip rest
    | 0 =>
      match next b rest with
      | .char c size => (decodeFrom (position + 1) (size - 1) rest).map (c :: ·)
      | .bad size cause => .error ⟨b, position, size, cause⟩

/-- The text of some bytes, all of which have to encode characters. -/
def decode (bytes : List UInt8) : Except Fault (List Char) :=
  decodeFrom 0 0 bytes

example : decode (encode ['é', '📊']) = .ok ['é', '📊'] := by rfl
example : decodeLossy [0xF0, 0x9F, 0x41, 0xFF] = ['\ufffd', 'A', '\ufffd'] := by rfl

end ShareLinks.Text.Utf8
