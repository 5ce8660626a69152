import ShareLinks.Text.Base64

/-!
# Reading back base64

Four characters become three bytes again. What a reader does with padding is settled by the last
group alone, which is the only one that may have any.
-/

namespace ShareLinks.Text.Base64

/-- The six bits that a character stands for. -/
def digitValue? (c : Char) : Option Nat :=
  if 'A' ≤ c ∧ c ≤ 'Z' then some (c.toNat - 'A'.toNat)
  else if 'a' ≤ c ∧ c ≤ 'z' then some (c.toNat - 'a'.toNat + 26)
  else if '0' ≤ c ∧ c ≤ '9' then some (c.toNat - '0'.toNat + 52)
  else if c = '+' then some 62
  else if c = '/' then some 63
  else none

/-- The bytes of a text in groups of four characters, of which the last may be padded. -/
def decode? : List Char → Option (List UInt8)
  | a :: b :: c :: d :: rest => do
    let a ← digitValue? a
    let b ← digitValue? b
    let first := UInt8.ofNat ((a * 64 + b) / 16)
    if d = '=' ∧ rest = [] then
      if c = '=' then pure [first]
      else do
        let c ← digitValue? c
        pure [first, UInt8.ofNat ((b * 64 + c) / 4)]
    else do
      let c ← digitValue? c
      let d ← digitValue? d
      let others ← decode? rest
      pure (first :: UInt8.ofNat ((b * 64 + c) / 4) :: UInt8.ofNat (c * 64 + d) :: others)
  | [] => some []
  | _ => none

/-- Characters of encoded text. -/
def isChar (c : Char) : Bool :=
  (digitValue? c).isSome || c == '='

theorem digit_mod (n : Nat) : digit n = digit (n % 64) := by
  simp only [digit, Nat.mod_mod]

theorem digitValue?_digit (n : Nat) : digitValue? (digit n) = some (n % 64) := by
  have h : ∀ k < 64, digitValue? (digit k) = some k := by decide
  rw [digit_mod, h _ (Nat.mod_lt n (by decide))]

theorem digit_ne_padding (n : Nat) : digit n ≠ '=' := by
  intro h
  have := digitValue?_digit n
  rw [h] at this
  cases this

theorem ofNat_eq {n : Nat} {b : UInt8} (h : n % 256 = b.toNat) : UInt8.ofNat n = b := by
  rw [← UInt8.toNat_inj, UInt8.toNat_ofNat']
  exact h

theorem decode?_encode (bs : List UInt8) : decode? (encode bs) = some bs := by
  match bs with
  | [] => rfl
  | [a] =>
    have := a.toNat_lt
    simp only [encode, decode?, digitValue?_digit, Option.bind_eq_bind, Option.bind_some,
      and_self, if_true, Option.pure_def]
    rw [ofNat_eq (b := a) (by omega)]
  | [a, b] =>
    have := a.toNat_lt
    have := b.toNat_lt
    simp only [encode, decode?, digitValue?_digit, Option.bind_eq_bind, Option.bind_some,
      and_self, if_true, digit_ne_padding, if_false, Option.pure_def]
    rw [ofNat_eq (b := a) (by omega), ofNat_eq (b := b) (by omega)]
  | a :: b :: c :: rest =>
    have := a.toNat_lt
    have := b.toNat_lt
    have := c.toNat_lt
    simp only [encode, decode?, digitValue?_digit, Option.bind_eq_bind, Option.bind_some,
      digit_ne_padding, false_and, if_false, decode?_encode rest, Option.pure_def]
    rw [ofNat_eq (b := a) (by omega), ofNat_eq (b := b) (by omega), ofNat_eq (b := c) (by omega)]

theorem isChar_of_mem_encode (bs : List UInt8) : ∀ c ∈ encode bs, isChar c = true := by
  have digits (n : Nat) : isChar (digit n) = true := by simp [isChar, digitValue?_digit]
  have padding : isChar '=' = true := by decide
  match bs with
  | [] => simp [encode]
  | [a] => simp [encode, digits, padding]
  | [a, b] => simp [encode, digits, padding]
  | a :: b :: c :: rest => simpa [encode, digits] using isChar_of_mem_encode rest

theorem ascii_of_isChar {c : Char} (h : isChar c = true) : c.toNat < 0x80 := by
  unfold isChar digitValue? at h
  split at h
  · next upper => exact Nat.lt_of_le_of_lt upper.2 (by decide)
  split at h
  · next lower => exact Nat.lt_of_le_of_lt lower.2 (by decide)
  split at h
  · next digit => exact Nat.lt_of_le_of_lt digit.2 (by decide)
  split at h
  · next plus => rw [plus]; decide
  split at h
  · next slash => rw [slash]; decide
  · rw [Option.isSome_none, Bool.false_or, beq_iff_eq] at h
    rw [h]; decide

end ShareLinks.Text.Base64
