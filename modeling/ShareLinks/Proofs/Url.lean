import ShareLinks.Host.Basic
import ShareLinks.Proofs.Host.Addresses
import ShareLinks.Proofs.Text.Printable

/-!
# What is assumed of URLs

Links are written with a URL library, which is no part of the program. Relied on is only what is
documented of it: the parameters stand in the query in form encoding, host and port stand one
behind the other in the server, a plain host can be read back from what is written of it, and a
plain name is refused only for the size of what goes with it.
-/

namespace ShareLinks

namespace Host

/-- The signs that end a part of a URI in front of its path. -/
def isDelimiter (c : Char) : Bool :=
  c == '#' || c == '?' || c == '@'

/-- Printable ASCII without a percent sign. -/
def IsPlainHost (host : String) : Prop :=
  ∀ c ∈ host.toList, (0x20 ≤ c.toNat ∧ c.toNat < 0x7F) ∧ c ≠ '%'

instance (host : String) : Decidable (IsPlainHost host) :=
  decidable_of_iff
    (host.toList.all fun c => decide ((0x20 ≤ c.toNat ∧ c.toNat < 0x7F) ∧ c ≠ '%'))
    (by simp [IsPlainHost])

/-- How an ASCII host is written: addresses as they are, and names in lower case, with what a name
cannot hold escaped. -/
inductive WrittenAs (host : List Char) : List Char → Prop
  | address (kind : host = [] ∨ isIpv4 host = true ∨
      ∃ inner, host = '[' :: inner ++ [']'] ∧ isIpv6 inner = true) : WrittenAs host host
  | name : WrittenAs host (Text.percentEncode isNameChar (Text.lower host))

/-- Letters and digits of ASCII, hyphens and dots. -/
def isPlainChar (c : Char) : Bool :=
  c.isAlphanum || c == '-' || c == '.'

/-- Digits, and at most three other characters between them. -/
def looksNumeric (cs : List Char) : Bool :=
  cs.head?.any Char.isDigit && cs.getLast?.any Char.isDigit &&
    (cs.filter fun c => !c.isDigit).length ≤ 3

/-- A plain host name: of plain characters alone, no more of them than a name may have and no hyphen
in front. One that could be taken for an address of version 4 is one. -/
structure IsPlainName (host : String) : Prop where
  chars : host.toList.all isPlainChar = true
  length : host.toList.length ≤ 253
  front : host.toList.head? ≠ some '-'
  address : looksNumeric host.toList = true → isIpv4 host.toList = true

end Host

namespace UrlLibrary

/-- The schemes that have a usual port, which is left out. -/
def schemesWithPort : List String :=
  ["ftp", "http", "https", "ws", "wss"]

/-- What is documented of a URL library. -/
structure Lawful (urls : UrlLibrary) : Prop where
  query {scheme host port params url} (made : urls.make scheme host port params = .ok url) :
    url.query = Text.formEncodeAll params
  /-- What is written of a host does not depend on what goes with it. -/
  server : ∃ written : String → List Char, ∀ {scheme host port params url},
    scheme ∉ schemesWithPort → urls.make scheme host port params = .ok url →
      url.server = written host ++ ':' :: integerText port
  printable {scheme host port params url} (made : urls.make scheme host port params = .ok url) :
    Text.IsPrintable url.server
  /-- A host with a colon is put in brackets before it is written. -/
  host {scheme host port params url} (known : scheme ∉ schemesWithPort)
    (plain : Host.IsPlainHost host) (made : urls.make scheme host port params = .ok url) :
    ∃ written, Host.WrittenAs (Host.bracketed host.toList) written ∧
      url.server = written ++ ':' :: integerText port
  /-- Failures of the library are none of the program's own. -/
  foreign {scheme host port params fault}
    (refused : urls.make scheme host port params = .error fault) :
    (∀ field reason, fault ≠ .undecodable field reason) ∧
      ∀ name, fault ≠ .unsupportedProtocol name
  /-- Only the query can be too long for a plain name, or the port for a numeral. -/
  name {scheme host port params fault} (plain : Host.IsPlainName host)
    (refused : urls.make scheme host port params = .error fault) :
    (fault = .integerTooLong Text.maxDigits ∧ ¬ Text.isReadable port = true) ∨
      (fault = .partTooLong .query ∧ Host.maxPartLength < (Text.formEncodeAll params).length)

end UrlLibrary

namespace Host

theorem not_isDelimiter_of_isAlphanum {c : Char} (h : c.isAlphanum = true) :
    isDelimiter c = false := by
  simp only [isDelimiter, Bool.or_eq_false_iff, beq_eq_false_iff_ne]
  refine ⟨⟨?_, ?_⟩, ?_⟩ <;> (rintro rfl; revert h; decide)

theorem not_isDelimiter_of_isNameChar {c : Char} (h : isNameChar c = true) :
    isDelimiter c = false := by
  simp only [isDelimiter, Bool.or_eq_false_iff, beq_eq_false_iff_ne]
  refine ⟨⟨?_, ?_⟩, ?_⟩ <;> (rintro rfl; revert h; decide)

theorem not_isDelimiter_of_hexValue? {c : Char} (h : (Text.hexValue? c).isSome = true) :
    isDelimiter c = false := by
  simp only [isDelimiter, Bool.or_eq_false_iff, beq_eq_false_iff_ne]
  refine ⟨⟨?_, ?_⟩, ?_⟩ <;> (rintro rfl; revert h; decide)

theorem toLower_toLower {c : Char} (ascii : c.toNat < 0x80) : c.toLower.toLower = c.toLower :=
  Text.of_ascii (P := fun c => c.toLower.toLower = c.toLower) (by decide) ascii

theorem eq_percent_of_toLower {c : Char} (ascii : c.toNat < 0x80) (h : c.toLower = '%') :
    c = '%' :=
  Text.of_ascii (P := fun c => c.toLower = '%' → c = '%') (by decide) ascii h

theorem percentDecode_of_not_mem {cs : List Char} (h : '%' ∉ cs) : Text.percentDecode cs = cs := by
  have kept : Text.percentEncode (fun _ => true) cs = cs := List.flatMap_singleton' cs
  rw [← kept, Text.percentDecode_percentEncode]
  · rw [kept]
  · rintro c hc - rfl
    exact h hc

theorem not_isDelimiter_address {host : List Char} (percent : '%' ∉ host)
    (kind : host = [] ∨ isIpv4 host = true ∨
      ∃ inner, host = '[' :: inner ++ [']'] ∧ isIpv6 inner = true) :
    ∀ c ∈ host, isDelimiter c = false := by
  intro c hc
  rcases kind with rfl | ipv4 | ⟨inner, rfl, ipv6⟩
  · cases hc
  · rcases isIpv4_chars ipv4 c hc with rfl | digit
    · decide
    · exact not_isDelimiter_of_hexValue? (hexValue?_of_isDigit digit)
  · have noZone : '%' ∉ inner := by
      intro h
      exact percent (by simp [h])
    have plain : isPlainIpv6 inner = true := by
      have whole : Text.splitOn (· == '%') inner = [inner] := by
        refine Text.splitOn_of_not_mem fun d hd => ?_
        rw [beq_eq_false_iff_ne]
        rintro rfl
        exact noZone hd
      simp only [isIpv6, whole, Bool.and_eq_true] at ipv6
      exact ipv6.2
    rcases List.mem_append.mp hc with hc | hc
    · rcases List.mem_cons.mp hc with rfl | hc
      · decide
      · rcases isPlainIpv6_chars plain c hc with rfl | rfl | hex
        · decide
        · decide
        · exact not_isDelimiter_of_hexValue? hex
    · rw [List.mem_singleton.mp hc]
      decide

theorem IsPlainHost.bracketed_chars {host : String} (plain : IsPlainHost host) :
    (∀ c ∈ bracketed host.toList, c.toNat < 0x80) ∧ '%' ∉ bracketed host.toList := by
  have cases_mem : ∀ c ∈ bracketed host.toList, c = '[' ∨ c = ']' ∨ c ∈ host.toList := by
    intro c hc
    unfold bracketed at hc
    split at hc
    · simp only [List.mem_append, List.mem_cons, List.not_mem_nil, or_false] at hc
      rcases hc with (rfl | hc) | rfl
      · exact .inl rfl
      · exact .inr (.inr hc)
      · exact .inr (.inl rfl)
    · exact .inr (.inr hc)
  constructor
  · intro c hc
    rcases cases_mem c hc with rfl | rfl | hc
    · decide
    · decide
    · have := (plain c hc).1
      omega
  · intro hc
    rcases cases_mem _ hc with h | h | h
    · exact absurd h (by decide)
    · exact absurd h (by decide)
    · exact (plain _ h).2 rfl

/-- A written host ends where its port begins, and is the host but for case. -/
theorem WrittenAs.readable {host written : List Char} (ascii : ∀ c ∈ host, c.toNat < 0x80)
    (percent : '%' ∉ host) (h : WrittenAs host written) :
    (Text.percentDecode written).map Char.toLower = host.map Char.toLower ∧
      ∀ c ∈ written, isDelimiter c = false := by
  cases h with
  | address kind =>
    rw [percentDecode_of_not_mem percent]
    exact ⟨rfl, not_isDelimiter_address percent kind⟩
  | name =>
    rw [Text.lower_of_ascii ascii]
    constructor
    · rw [Text.percentDecode_percentEncode, List.map_map]
      · exact List.map_congr_left fun c hc => toLower_toLower (ascii c hc)
      · rintro c hc - rfl
        obtain ⟨d, hd, same⟩ := List.mem_map.mp hc
        rw [eq_percent_of_toLower (ascii d hd) same] at hd
        exact percent hd
    · intro c hc
      rcases Text.mem_percentEncode hc with name | rfl | digit
      · exact not_isDelimiter_of_isNameChar name
      · decide
      · exact not_isDelimiter_of_isAlphanum digit

end Host
end ShareLinks
