import ShareLinks.Text.Hex
import ShareLinks.Text.Percent
import ShareLinks.Proofs.Text.Split
import ShareLinks.Proofs.Text.Utf8

/-!
# Reading back escaped text

Whatever characters are kept as they are, escaped text is decoded to the text, as long as no
percent sign is kept. The form encoding of queries is undone piece by piece, because the signs
between names and values are escaped inside of them.
-/

namespace ShareLinks.Text

/-- The bytes of an escaped text; a percent sign without two digits stands for itself. -/
def percentBytes : List Char → List UInt8
  | '%' :: high :: low :: rest =>
    match hexValue? high, hexValue? low with
    | some h, some l => UInt8.ofNat (16 * h + l) :: percentBytes rest
    | _, _ => 0x25 :: percentBytes (high :: low :: rest)
  | c :: rest => String.utf8EncodeChar c ++ percentBytes rest
  | [] => []

/-- The text that an escaped text stands for. -/
def percentDecode (cs : List Char) : List Char :=
  Utf8.decodeLossy (percentBytes cs)

/-- The text with a space for each plus. -/
def spaced (cs : List Char) : List Char :=
  cs.map fun c => if c = '+' then ' ' else c

/-- The name or the value of a query parameter in form encoding. -/
def formDecode (cs : List Char) : List Char :=
  percentDecode (spaced cs)

/-- The named values of a query in form encoding. A piece without a sign has an empty value, and
empty pieces are passed over. -/
def formDecodeAll (cs : List Char) : List (List Char × List Char) :=
  ((splitOn (· == '&') cs).filter fun piece => !piece.isEmpty).map fun piece =>
    let (name, value) := cut '=' piece
    (formDecode name, formDecode (value.getD []))

theorem hexDigit_upper : ∀ n < 16, hexValue? (Nat.digitChar n).toUpper = some n ∧
    (Nat.digitChar n).toUpper.isAlphanum = true := by decide

theorem mem_percentByte {b : UInt8} {c : Char} (h : c ∈ percentByte b) :
    c = '%' ∨ c.isAlphanum = true := by
  have := b.toNat_lt
  simp only [percentByte, List.mem_cons, List.not_mem_nil, or_false] at h
  rcases h with rfl | rfl | rfl
  · exact .inl rfl
  · exact .inr (hexDigit_upper _ (by omega)).2
  · exact .inr (hexDigit_upper _ (by omega)).2

theorem mem_percentChar {keep : Char → Bool} {c d : Char} (h : d ∈ percentChar keep c) :
    keep d = true ∨ d = '%' ∨ d.isAlphanum = true := by
  unfold percentChar at h
  split at h
  · next kept =>
    rw [List.mem_singleton.mp h]
    exact .inl kept
  · obtain ⟨b, -, hb⟩ := List.mem_flatMap.mp h
    exact .inr (mem_percentByte hb)

theorem percentEncode_of_keep {keep : Char → Bool} {cs : List Char}
    (kept : ∀ c ∈ cs, keep c = true) : percentEncode keep cs = cs := by
  induction cs with
  | nil => rfl
  | cons c cs ih =>
    have first : percentChar keep c = [c] := if_pos (kept c (by simp))
    have rest := ih fun d hd => kept d (by simp [hd])
    rw [percentEncode] at rest
    rw [percentEncode, List.flatMap_cons, first, rest, List.singleton_append]

theorem mem_percentEncode {keep : Char → Bool} {cs : List Char} {d : Char}
    (h : d ∈ percentEncode keep cs) : keep d = true ∨ d = '%' ∨ d.isAlphanum = true := by
  obtain ⟨c, -, hd⟩ := List.mem_flatMap.mp h
  exact mem_percentChar hd

/-- A sign that is escaped does not stand in the escaped text. -/
theorem not_mem_percentEncode {keep : Char → Bool} {d : Char}
    (sign : keep d = false ∧ d ≠ '%' ∧ d.isAlphanum = false) (cs : List Char) :
    d ∉ percentEncode keep cs := by
  intro h
  rcases mem_percentEncode h with kept | percent | digit
  · rw [sign.1] at kept
    cases kept
  · exact sign.2.1 percent
  · rw [sign.2.2] at digit
    cases digit

theorem isUnreserved_of_isAlphanum {c : Char} (h : c.isAlphanum = true) :
    isUnreserved c = true := by
  simp [isUnreserved, h]

theorem mem_formEncode {cs : List Char} {d : Char} (h : d ∈ formEncode cs) :
    isUnreserved d = true ∨ d = '+' ∨ d = '%' := by
  obtain ⟨c, -, hd⟩ := List.mem_flatMap.mp h
  split at hd
  · exact .inr (.inl (List.mem_singleton.mp hd))
  · rcases mem_percentChar hd with kept | percent | digit
    · exact .inl kept
    · exact .inr (.inr percent)
    · exact .inl (isUnreserved_of_isAlphanum digit)

theorem percentBytes_cons {c : Char} (h : c ≠ '%') (rest : List Char) :
    percentBytes (c :: rest) = String.utf8EncodeChar c ++ percentBytes rest := by
  rw [percentBytes]
  rintro high low rest' rfl
  exact absurd rfl h

theorem percentBytes_percentByte (b : UInt8) (rest : List Char) :
    percentBytes (percentByte b ++ rest) = b :: percentBytes rest := by
  have bound := b.toNat_lt
  have value : 16 * (b.toNat / 16) + b.toNat % 16 = b.toNat := by omega
  simp only [percentByte, List.cons_append, List.nil_append, percentBytes,
    (hexDigit_upper _ (show b.toNat / 16 < 16 by omega)).1,
    (hexDigit_upper _ (show b.toNat % 16 < 16 by omega)).1, value, UInt8.ofNat_toNat]

theorem percentBytes_flatMap (bs : List UInt8) (rest : List Char) :
    percentBytes (bs.flatMap percentByte ++ rest) = bs ++ percentBytes rest := by
  induction bs with
  | nil => rfl
  | cons b bs ih =>
    rw [List.flatMap_cons, List.append_assoc, percentBytes_percentByte, ih, List.cons_append]

theorem percentBytes_percentEncode {keep : Char → Bool} {cs : List Char}
    (percent : ∀ c ∈ cs, keep c = true → c ≠ '%') (rest : List Char) :
    percentBytes (percentEncode keep cs ++ rest) = Utf8.encode cs ++ percentBytes rest := by
  induction cs with
  | nil => rfl
  | cons c cs ih =>
    have others := ih fun d hd => percent d (by simp [hd])
    have split : percentEncode keep (c :: cs) ++ rest =
        percentChar keep c ++ (percentEncode keep cs ++ rest) := by
      rw [percentEncode, List.flatMap_cons, List.append_assoc, percentEncode]
    rw [split, percentChar, Utf8.encode, List.flatMap_cons, List.append_assoc, ← Utf8.encode]
    split
    · next kept =>
      rw [List.singleton_append, percentBytes_cons (percent c (by simp) kept), others]
    · rw [percentBytes_flatMap, others]

theorem percentDecode_percentEncode {keep : Char → Bool} {cs : List Char}
    (percent : ∀ c ∈ cs, keep c = true → c ≠ '%') :
    percentDecode (percentEncode keep cs) = cs := by
  have bytes := percentBytes_percentEncode percent []
  rw [List.append_nil, percentBytes, List.append_nil] at bytes
  rw [percentDecode, bytes, Utf8.decodeLossy_encode]

theorem spaced_of_not_mem {cs : List Char} (h : '+' ∉ cs) : spaced cs = cs := by
  have same : ∀ c ∈ cs, (if c = '+' then ' ' else c) = c := by
    intro c hc
    rw [if_neg]
    rintro rfl
    exact h hc
  rw [spaced, List.map_congr_left same, List.map_id']

/-- With spaces for its signs, form encoding is percent encoding that keeps spaces. -/
theorem spaced_formEncode (cs : List Char) :
    spaced (formEncode cs) = percentEncode (fun c => isUnreserved c || c == ' ') cs := by
  induction cs with
  | nil => rfl
  | cons c cs ih =>
    have first : spaced (if c = ' ' then ['+'] else percentChar isUnreserved c) =
        percentChar (fun c => isUnreserved c || c == ' ') c := by
      by_cases space : c = ' '
      · rw [if_pos space, space]
        decide
      · have plus : '+' ∉ percentChar isUnreserved c := by
          intro h
          rcases mem_percentChar h with h | h | h <;> exact absurd h (by decide)
        rw [if_neg space, spaced_of_not_mem plus]
        simp only [percentChar, beq_eq_false_iff_ne.mpr space, Bool.or_false]
    rw [formEncode, percentEncode, List.flatMap_cons, List.flatMap_cons, spaced, List.map_append]
    exact congrArg₂ _ first ih

theorem formDecode_formEncode (cs : List Char) : formDecode (formEncode cs) = cs := by
  rw [formDecode, spaced_formEncode, percentDecode_percentEncode]
  rintro c - kept rfl
  exact absurd kept (by decide)

/-- A named value in a query. -/
def pairText (pair : String × String) : List Char :=
  formEncode pair.1.toList ++ '=' :: formEncode pair.2.toList

theorem formEncodeAll_eq (pairs : List (String × String)) :
    formEncodeAll pairs = ['&'].intercalate (pairs.map pairText) := rfl

theorem formEncodeAll_ne_nil {pairs : List (String × String)} (some : pairs ≠ []) :
    formEncodeAll pairs ≠ [] := by
  match pairs, some with
  | [pair], _ => simp [formEncodeAll_eq, List.intercalate_singleton, pairText]
  | pair :: next :: pairs, _ =>
    simp [formEncodeAll_eq, List.intercalate_cons_cons]

theorem mem_pairText {pair : String × String} {d : Char} (h : d ∈ pairText pair) :
    isUnreserved d = true ∨ d = '+' ∨ d = '%' ∨ d = '=' := by
  rcases List.mem_append.mp h with h | h
  · rcases mem_formEncode h with h | h | h <;> simp [h]
  · rcases List.mem_cons.mp h with h | h
    · simp [h]
    · rcases mem_formEncode h with h | h | h <;> simp [h]

theorem decode_pairText (pair : String × String) :
    (formDecode (cut '=' (pairText pair)).1, formDecode ((cut '=' (pairText pair)).2.getD [])) =
      (pair.1.toList, pair.2.toList) := by
  have name : '=' ∉ formEncode pair.1.toList := by
    intro h
    rcases mem_formEncode h with h | h | h <;> exact absurd h (by decide)
  rw [pairText, cut_append name, Option.getD_some, formDecode_formEncode, formDecode_formEncode]

/-- A query is decoded to the named values that it was made of, in their order. -/
theorem formDecodeAll_formEncodeAll (pairs : List (String × String)) :
    formDecodeAll (formEncodeAll pairs) =
      pairs.map fun (name, value) => (name.toList, value.toList) := by
  cases pairs with
  | nil => decide
  | cons pair pairs =>
    have pieces : splitOn (· == '&') (formEncodeAll (pair :: pairs)) =
        (pair :: pairs).map pairText := by
      rw [formEncodeAll_eq]
      refine splitOn_intercalate (by decide) ?_ (by simp)
      intro piece hpiece d hd
      obtain ⟨other, -, rfl⟩ := List.mem_map.mp hpiece
      rw [beq_eq_false_iff_ne]
      rintro rfl
      rcases mem_pairText hd with h | h | h | h <;> exact absurd h (by decide)
    have nonempty : ∀ piece ∈ (pair :: pairs).map pairText, (!piece.isEmpty) = true := by
      intro piece hpiece
      obtain ⟨other, -, rfl⟩ := List.mem_map.mp hpiece
      simp [pairText]
    rw [formDecodeAll, pieces, List.filter_eq_self.mpr nonempty, List.map_map]
    exact List.map_congr_left fun other _ => decode_pairText other

theorem mem_formEncodeAll {pairs : List (String × String)} {d : Char}
    (h : d ∈ formEncodeAll pairs) :
    isUnreserved d = true ∨ d = '+' ∨ d = '%' ∨ d = '=' ∨ d = '&' := by
  rw [formEncodeAll_eq] at h
  rcases mem_intercalate h with h | ⟨piece, hpiece, h⟩
  · simp [h]
  · obtain ⟨pair, -, rfl⟩ := List.mem_map.mp hpiece
    rcases mem_pairText h with h | h | h | h <;> simp [h]

theorem not_mem_formEncodeAll {d : Char}
    (sign : isUnreserved d = false ∧ d ≠ '+' ∧ d ≠ '%' ∧ d ≠ '=' ∧ d ≠ '&')
    (pairs : List (String × String)) : d ∉ formEncodeAll pairs := by
  obtain ⟨escaped, others⟩ := sign
  intro h
  rcases mem_formEncodeAll h with kept | h
  · rw [escaped] at kept
    cases kept
  · simp only [others.1, others.2.1, others.2.2.1, others.2.2.2, or_self] at h

end ShareLinks.Text
