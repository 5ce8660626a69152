import ShareLinks.Host.Ipv6
import ShareLinks.Proofs.Text.Split

/-!
# What stands in addresses

Addresses of version 4 hold digits and dots; those of version 6 without a zone hold hexadecimal
digits, colons and dots. None of them holds a sign that means something in a URI.
-/

namespace ShareLinks.Host

theorem hexValue?_of_isDigit {c : Char} (h : c.isDigit = true) :
    (Text.hexValue? c).isSome = true := by
  simp only [Char.isDigit, Bool.and_eq_true, decide_eq_true_eq] at h
  have decimal : '0' ≤ c ∧ c ≤ '9' := h
  rw [Text.hexValue?, if_pos decimal]
  rfl

theorem isIpv4_chars {cs : List Char} (h : isIpv4 cs = true) :
    ∀ c ∈ cs, c = '.' ∨ c.isDigit = true := by
  intro c hc
  rw [isIpv4, Bool.and_eq_true, List.all_eq_true] at h
  rcases Text.mem_splitOn (· == '.') hc with dot | ⟨piece, hpiece, hc⟩
  · exact .inl (beq_iff_eq.mp dot)
  · have octet := h.2 piece hpiece
    simp only [isOctet, Bool.and_eq_true, List.all_eq_true] at octet
    exact .inr (octet.1.1.1.2 c hc)

/-- Hexadecimal digits and nothing else. -/
def AllHex (part : List Char) : Prop :=
  ∀ c ∈ part, (Text.hexValue? c).isSome = true

theorem allHex_of_isGroup {part : List Char} (h : isGroup part = true) : AllHex part := by
  simp only [isGroup, Bool.and_eq_true, List.all_eq_true] at h
  exact h.2

theorem allHex_nil : AllHex [] := by
  intro c hc
  cases hc

theorem allHex_of_all_isGroup {parts : List (List Char)}
    (h : (if parts == [[]] then [] else parts).all isGroup = true) :
    ∀ part ∈ parts, AllHex part := by
  intro part hpart
  split at h
  · next empty =>
    rw [beq_iff_eq.mp empty, List.mem_singleton] at hpart
    rw [hpart]
    exact allHex_nil
  · exact allHex_of_isGroup (List.all_eq_true.mp h part hpart)

theorem getElem?_of_mem_innerGaps {parts : List (List Char)} {i : Nat}
    (h : i ∈ innerGaps parts) : parts[i]? = some [] := by
  simp only [innerGaps, List.mem_filter, Bool.and_eq_true, beq_iff_eq] at h
  exact h.2.2

theorem allHex_of_isPlainIpv6 {cs : List Char} (h : isPlainIpv6 cs = true) :
    ∃ parts, groups? cs = some parts ∧ ∀ part ∈ parts, AllHex part := by
  unfold isPlainIpv6 at h
  split at h
  · cases h
  · next parts found =>
    refine ⟨parts, found, fun part hpart => ?_⟩
    rw [Bool.and_eq_true] at h
    obtain ⟨-, h⟩ := h
    split at h
    · rw [Bool.and_eq_true, List.all_eq_true] at h
      exact allHex_of_isGroup (h.2 part hpart)
    · next i gaps =>
      simp only [areSplitGroups, Bool.and_eq_true] at h
      have gap : parts[i]? = some [] := getElem?_of_mem_innerGaps (by rw [gaps]; simp)
      obtain ⟨j, hj⟩ := List.getElem?_of_mem hpart
      rcases Nat.lt_trichotomy j i with before | rfl | after
      · refine allHex_of_all_isGroup h.1.2 part (List.mem_of_getElem? (i := j) ?_)
        rw [List.getElem?_take_of_lt before, hj]
      · rw [gap] at hj
        rw [← Option.some.inj hj]
        exact allHex_nil
      · refine allHex_of_all_isGroup h.2 part (List.mem_of_getElem? (i := j - (i + 1)) ?_)
        rw [List.getElem?_drop, show i + 1 + (j - (i + 1)) = j by omega, hj]
    · cases h

theorem isPlainIpv6_chars {cs : List Char} (h : isPlainIpv6 cs = true) :
    ∀ c ∈ cs, c = ':' ∨ c = '.' ∨ (Text.hexValue? c).isSome = true := by
  obtain ⟨parts, found, hex⟩ := allHex_of_isPlainIpv6 h
  intro c hc
  rcases Text.mem_splitOn (· == ':') hc with colon | ⟨piece, hpiece, hc⟩
  · exact .inl (beq_iff_eq.mp colon)
  · have hexadecimal (all : AllHex piece) : c = ':' ∨ c = '.' ∨ (Text.hexValue? c).isSome = true :=
      .inr (.inr (all c hc))
    unfold groups? at found
    dsimp only at found
    split at found
    · cases found
    split at found
    · split at found
      · next ipv4 =>
        cases found
        have nonempty := Text.splitOn_ne_nil (· == ':') cs
        rw [List.getLast?_eq_some_getLast nonempty, Option.getD_some] at ipv4
        rw [← List.dropLast_concat_getLast nonempty] at hpiece
        rcases List.mem_append.mp hpiece with first | last
        · exact hexadecimal (hex piece (List.mem_append_left _ first))
        · rw [List.mem_singleton.mp last] at hc
          rcases isIpv4_chars ipv4 c hc with dot | digit
          · exact .inr (.inl dot)
          · exact .inr (.inr (hexValue?_of_isDigit digit))
      · cases found
    · cases found
      exact hexadecimal (hex piece hpiece)

end ShareLinks.Host
