import Mathlib.Data.List.Basic
import Mathlib.Data.Option.Basic
import ShareLinks.Link.Basic
import ShareLinks.Proofs.Sequence
import ShareLinks.Proofs.Url

/-!
# A lawful URL library

The library that the program runs with does what is documented of one. A host that passes its checks
holds no control character, and neither does what is written of it: addresses are written as they
are, names are lowered and then escaped or put into their ASCII form.
-/

namespace ShareLinks.Host

/-- No control character of ASCII. -/
def Clean (cs : List Char) : Prop :=
  ∀ c ∈ cs, isControl c = false

instance (cs : List Char) : Decidable (Clean cs) :=
  decidable_of_iff (cs.all fun c => !isControl c) (by simp [Clean])

theorem clean_append {a b : List Char} (ha : Clean a) (hb : Clean b) : Clean (a ++ b) := by
  intro c hc
  rcases List.mem_append.mp hc with hc | hc
  · exact ha c hc
  · exact hb c hc

theorem clean_cons {c : Char} {cs : List Char} (hc : isControl c = false) (hcs : Clean cs) :
    Clean (c :: cs) := by
  intro d hd
  rcases List.mem_cons.mp hd with rfl | hd
  · exact hc
  · exact hcs d hd

theorem clean_of_checkPart {part : LinkPart} {cs : List Char} (h : checkPart part cs = .ok ()) :
    Clean cs := by
  intro c hc
  unfold checkPart at h
  split at h
  · cases h
  · split at h
    · cases h
    · next none =>
      rw [Bool.eq_false_iff]
      exact List.find?_eq_none.mp none c hc

theorem not_isControl_of_printable {c : Char} (h : 0x20 ≤ c.toNat ∧ c.toNat < 0x7F) :
    isControl c = false := by
  simp only [isControl, Bool.or_eq_false_iff, decide_eq_false_iff_not, beq_eq_false_iff_ne]
  omega

theorem lowerCase_targets : ∀ entry ∈ Text.lowerCase, ∀ n ∈ entry.2,
    n.isValidChar ∧ 0x20 ≤ n ∧ n ≠ 0x7F := by decide +kernel

theorem clean_image {c : Char} {cs : List Char} (h : Text.lowerCase.image? c = some cs) :
    Clean cs := by
  intro d hd
  obtain ⟨targets, found, rfl⟩ := Option.map_eq_some_iff.mp h
  obtain ⟨before, after, split, -⟩ := List.lookup_eq_some_iff.mp found
  obtain ⟨n, hn, rfl⟩ := List.mem_map.mp hd
  obtain ⟨valid, bounds⟩ := lowerCase_targets (c.toNat, targets) (by rw [split]; simp) n hn
  have value : (Char.ofNat n).toNat = n := by
    rw [Char.ofNat, dif_pos valid]
    rfl
  simp only [isControl, value, Bool.or_eq_false_iff, decide_eq_false_iff_not, beq_eq_false_iff_ne]
  omega

theorem not_isControl_toLower {c : Char} (ascii : c.toNat < 0x80) (h : isControl c = false) :
    isControl c.toLower = false :=
  Text.of_ascii (P := fun c => isControl c = false → isControl c.toLower = false)
    (by decide) ascii h

theorem clean_lowerChar {c : Char} (h : isControl c = false) : Clean (Text.lowerChar c) := by
  intro d hd
  unfold Text.lowerChar at hd
  split at hd
  · next ascii =>
    rw [List.mem_singleton.mp hd]
    exact not_isControl_toLower ascii h
  · cases image : Text.lowerCase.image? c with
    | none =>
      rw [image, Option.getD_none, List.mem_singleton] at hd
      rw [hd]
      exact h
    | some cs =>
      rw [image, Option.getD_some] at hd
      exact clean_image image d hd

theorem clean_lowerAfter (before : List Char) {cs : List Char} (h : Clean cs) :
    Clean (Text.lowerAfter before cs) := by
  induction cs generalizing before with
  | nil => exact h
  | cons c cs ih =>
    intro d hd
    rw [Text.lowerAfter] at hd
    rcases List.mem_append.mp hd with hd | hd
    · split at hd
      · split at hd <;> (rw [List.mem_singleton.mp hd]; decide)
      · exact clean_lowerChar (h c (by simp)) d hd
    · exact ih (c :: before) (fun e he => h e (by simp [he])) d hd

theorem clean_lower {cs : List Char} (h : Clean cs) : Clean (Text.lower cs) :=
  clean_lowerAfter [] h

theorem threshold_bounds (place bias : Nat) :
    1 ≤ Punycode.threshold place bias ∧ Punycode.threshold place bias ≤ 26 := by
  unfold Punycode.threshold
  omega

theorem isAlphanum_digit : ∀ n < 36, (Punycode.digit n).isAlphanum = true := by decide

/-- The fuel of a distance is never used up before the distance is. -/
theorem isAlphanum_distanceText (bias : Nat) {fuel place distance : Nat} (h : distance ≤ fuel) :
    ∀ c ∈ Punycode.distanceText fuel bias place distance, c.isAlphanum = true := by
  have bounds := threshold_bounds place bias
  induction fuel generalizing place distance with
  | zero =>
    intro c hc
    rw [Punycode.distanceText, List.mem_singleton] at hc
    rw [hc]
    exact isAlphanum_digit _ (by omega)
  | succ fuel ih =>
    intro c hc
    rw [Punycode.distanceText] at hc
    split at hc
    · rw [List.mem_singleton.mp hc]
      exact isAlphanum_digit _ (by omega)
    · rcases List.mem_cons.mp hc with rfl | hc
      · refine isAlphanum_digit _ ?_
        have := Nat.mod_lt (distance - Punycode.threshold place bias)
          (show 0 < 36 - Punycode.threshold place bias by omega)
        omega
      · refine ih ?_ (threshold_bounds _ _) c hc
        have := Nat.div_le_self (distance - Punycode.threshold place bias)
          (36 - Punycode.threshold place bias)
        omega

theorem isAlphanum_insertionsText (first : Bool) (start : Punycode.Counter)
    (xs : List Punycode.Insertion) :
    ∀ c ∈ Punycode.insertionsText first start xs, c.isAlphanum = true := by
  induction xs generalizing first start with
  | nil =>
    intro c hc
    cases hc
  | cons x xs ih =>
    intro c hc
    rcases List.mem_append.mp hc with hc | hc
    · exact isAlphanum_distanceText _ (Nat.le_refl _) c hc
    · exact ih _ _ c hc

theorem clean_punycode {label : List Char} (h : Clean label) : Clean (Punycode.encode label) := by
  intro c hc
  have digits : ∀ start xs, c ∈ Punycode.insertionsText true start xs → isControl c = false :=
    fun start xs hc => not_isControl_of_printable
      (Text.printable_of_isAlphanum (isAlphanum_insertionsText _ _ _ c hc))
  unfold Punycode.encode at hc
  dsimp only at hc
  split at hc
  · exact digits _ _ hc
  · rcases List.mem_append.mp hc with hc | hc
    · exact h c (List.mem_of_mem_filter hc)
    · rcases List.mem_cons.mp hc with rfl | hc
      · decide
      · exact digits _ _ hc

theorem clean_asciiLabel {label ascii : List Char} (clean : Clean label)
    (h : asciiLabel? label = some ascii) : Clean ascii := by
  obtain ⟨-, -, h⟩ := Option.bind_eq_some_iff.mp h
  split at h
  · split at h
    · obtain ⟨found, same, h⟩ := Option.bind_eq_some_iff.mp h
      obtain ⟨-, -, h⟩ := Option.bind_eq_some_iff.mp h
      rw [← Option.some.inj h, ← Option.some.inj same]
      exact clean
    · cases h
  · split at h
    · obtain ⟨found, same, h⟩ := Option.bind_eq_some_iff.mp h
      obtain ⟨-, -, h⟩ := Option.bind_eq_some_iff.mp h
      rw [← Option.some.inj h, ← Option.some.inj same]
      have mark : Clean punycodeMark := by decide
      exact clean_append mark (clean_punycode clean)
    · cases h

theorem clean_intercalate {pieces : List (List Char)} (h : ∀ piece ∈ pieces, Clean piece) :
    Clean (['.'].intercalate pieces) := by
  intro c hc
  rcases Text.mem_intercalate hc with rfl | ⟨piece, hpiece, hc⟩
  · decide
  · exact h piece hpiece c hc

theorem clean_asciiName {name ascii : List Char} (clean : Clean name)
    (h : asciiName? name = some ascii) : Clean ascii := by
  have pieces : ∀ label ∈ Text.splitOn isDot name, Clean label :=
    fun label hlabel c hc => clean c (Text.mem_of_mem_splitOn hlabel hc)
  unfold asciiName? at h
  dsimp only at h
  obtain ⟨labels, found, h⟩ := Option.bind_eq_some_iff.mp h
  have labelsClean : ∀ label ∈ labels, Clean label := by
    intro label hlabel
    obtain ⟨piece, hpiece, ascii⟩ := exists_of_mem_mapM? found hlabel
    refine clean_asciiLabel (pieces piece ?_) ascii
    split at hpiece
    · exact (List.dropLast_subset _) hpiece
    · exact hpiece
  split at h
  · cases h
  · rw [← Option.some.inj h]
    split
    · have dot : Clean ['.'] := by decide
      exact clean_append (clean_intercalate labelsClean) dot
    · exact clean_intercalate labelsClean

theorem eq_of_isBracketed {host : List Char} (h : isBracketed host = true) :
    host = '[' :: (host.drop 1).dropLast ++ [']'] := by
  simp only [isBracketed, Bool.and_eq_true, decide_eq_true_eq, beq_iff_eq] at h
  obtain ⟨⟨long, first⟩, last⟩ := h
  match host, long with
  | c :: d :: cs, _ =>
    obtain rfl : c = '[' := Option.some.inj first
    rw [List.getLast?_cons_cons] at last
    rw [List.cons_append, List.drop_one, List.tail_cons,
      List.dropLast_append_getLast? ']' last]

/-- A host beyond ASCII is written as its ASCII form, and any other as one of ASCII. -/
theorem writtenAs_of_encode {host written : List Char} (h : encode host = .ok written) :
    WrittenAs host written ∨
      ((¬ ∀ c ∈ host, c.toNat < 0x80) ∧ asciiName? (Text.lower host) = some written) := by
  unfold encode at h
  split at h
  · next empty =>
    cases h
    rw [List.isEmpty_iff.mp empty]
    exact .inl (.address (.inl rfl))
  split at h
  · split at h
    · next ipv4 => cases h; exact .inl (.address (.inr (.inl ipv4)))
    · cases h
  split at h
  · next brackets =>
    split at h
    · next ipv6 =>
      cases h
      exact .inl (.address (.inr (.inr ⟨_, eq_of_isBracketed brackets, ipv6⟩)))
    · cases h
  split at h
  · cases h
    exact .inl .name
  · next wide =>
    split at h
    · next found => cases h; exact .inr ⟨by simpa using wide, found⟩
    · cases h

theorem clean_encode {host written : List Char} (clean : Clean host)
    (h : encode host = .ok written) : Clean written := by
  rcases writtenAs_of_encode h with (kind | -) | ⟨-, found⟩
  · exact clean
  · have printable : Text.IsPrintable (Text.percentEncode isNameChar (Text.lower host)) :=
      Text.isPrintable_percentEncode _ (fun _ => rfl) (by decide) _
    exact fun c hc => not_isControl_of_printable (printable c hc)
  · exact clean_asciiName (clean_lower clean) found

/-- The server is the written host, a colon and the port, all in ASCII. -/
theorem server_eq_ok {host port text : List Char} (h : server host port = .ok text) :
    ∃ written, encode host = .ok written ∧ text = written ++ ':' :: port ∧
      ∀ c ∈ text, c.toNat < 0x80 := by
  obtain ⟨written, found, h⟩ := bind_eq_ok_iff.mp h
  dsimp only at h
  split at h
  · next ascii =>
    cases h
    exact ⟨written, found, rfl, fun c hc => decide_eq_true_eq.mp (List.all_eq_true.mp ascii c hc)⟩
  · cases h

/-- A URL that is made has a checked host and a written server. -/
theorem makeUrl_eq_ok {host : String} {port : Int} {params : List (String × String)} {url : Url}
    (h : makeUrl host port params = .ok url) :
    url.query = Text.formEncodeAll params ∧ checkPart .host (bracketed host.toList) = .ok () ∧
      server (bracketed host.toList) (integerText port) = .ok url.server := by
  obtain ⟨digits, written, h⟩ := bind_eq_ok_iff.mp h
  obtain ⟨_, checked, h⟩ := bind_eq_ok_iff.mp h
  obtain ⟨_, -, h⟩ := bind_eq_ok_iff.mp h
  obtain ⟨text, made, h⟩ := bind_eq_ok_iff.mp h
  cases h
  rw [integerString] at written
  split at written
  · cases written
    rw [String.toList_ofList] at made
    exact ⟨rfl, checked, made⟩
  · cases written

theorem isPrintable_server {host : String} {port : Int} {params : List (String × String)}
    {url : Url} (h : makeUrl host port params = .ok url) : Text.IsPrintable url.server := by
  obtain ⟨-, checked, made⟩ := makeUrl_eq_ok h
  obtain ⟨written, encoded, whole, ascii⟩ := server_eq_ok made
  have cleanHost : Clean written := clean_encode (clean_of_checkPart checked) encoded
  have cleanPort : Clean (integerText port) := fun c hc =>
    not_isControl_of_printable (Text.isPrintable_integerText port c hc)
  have clean : Clean url.server := by
    rw [whole]
    exact clean_append cleanHost (clean_cons (by decide) cleanPort)
  intro c hc
  have control := clean c hc
  have bound := ascii c hc
  simp only [isControl, Bool.or_eq_false_iff, decide_eq_false_iff_not,
    beq_eq_false_iff_ne] at control
  omega

theorem looksNumeric_of_resemblesIpv4 {host : List Char} (h : resemblesIpv4 host = true) :
    looksNumeric host = true := by
  simp only [resemblesIpv4, dotted, Bool.and_eq_true, beq_iff_eq, List.all_eq_true,
    Bool.not_eq_true', List.isEmpty_eq_false_iff] at h
  obtain ⟨four, pieces⟩ := h
  have whole := Text.intercalate_splitOn '.' host
  obtain ⟨a, b, c, d, split⟩ : ∃ a b c d, Text.splitOn (· == '.') host = [a, b, c, d] :=
    List.length_eq_four.mp four
  rw [split] at pieces whole
  have digits {piece : List Char} (h : piece ∈ [a, b, c, d]) :
      (piece.filter fun x => !x.isDigit) = [] :=
    List.filter_eq_nil_iff.mpr fun x hx => by simp [(pieces piece h).2 x hx]
  have first : host.head?.any Char.isDigit = true := by
    obtain ⟨x, rest, rfl⟩ := List.exists_cons_of_ne_nil (pieces a (by simp)).1
    rw [← whole]
    simpa [List.intercalate] using (pieces _ List.mem_cons_self).2 x (by simp)
  have last : host.getLast?.any Char.isDigit = true := by
    obtain ⟨front, x, rfl⟩ := List.eq_nil_or_concat' d |>.resolve_left (pieces d (by simp)).1
    have ends : host = a ++ '.' :: (b ++ '.' :: (c ++ '.' :: front)) ++ [x] := by
      rw [← whole]
      simp [List.intercalate]
    rw [ends, List.getLast?_concat]
    exact (pieces (front ++ [x]) (by simp)).2 x (by simp)
  have others : (host.filter fun x => !x.isDigit) = ['.', '.', '.'] := by
    rw [← whole]
    simp [List.intercalate, digits]
  simp [looksNumeric, first, last, others]

namespace IsPlainName

variable {host : String}

theorem mem_cases (h : IsPlainName host) {c : Char} (hc : c ∈ host.toList) :
    c.isAlphanum = true ∨ c = '-' ∨ c = '.' := by
  have plain := List.all_eq_true.mp h.chars c hc
  simpa [isPlainChar, or_assoc] using plain

theorem isPrintable (h : IsPlainName host) : Text.IsPrintable host.toList := by
  intro c hc
  rcases h.mem_cases hc with alphanum | rfl | rfl
  · exact Text.printable_of_isAlphanum alphanum
  · decide
  · decide

theorem not_mem (h : IsPlainName host) {d : Char}
    (sign : d.isAlphanum = false ∧ d ≠ '-' ∧ d ≠ '.') : d ∉ host.toList := by
  intro hd
  rcases h.mem_cases hd with alphanum | minus | dot
  · rw [sign.1] at alphanum
    cases alphanum
  · exact sign.2.1 minus
  · exact sign.2.2 dot

/-- A plain name needs no brackets and has none. -/
theorem bracketed_eq (h : IsPlainName host) : bracketed host.toList = host.toList := by
  have colon : ':' ∉ host.toList := h.not_mem (by decide)
  simp [bracketed, colon]

theorem not_isBracketed (h : IsPlainName host) : ¬ isBracketed host.toList = true := by
  intro bracketed
  simp only [isBracketed, Bool.and_eq_true, beq_iff_eq] at bracketed
  exact h.not_mem (d := '[') (by decide) (List.mem_of_mem_head? bracketed.1.2)

theorem checkPart_eq (h : IsPlainName host) : checkPart .host host.toList = .ok () := by
  have short : ¬ maxPartLength < host.toList.length := by
    have := h.length
    simp only [maxPartLength]
    omega
  have clean : host.toList.find? isControl = none := by
    apply List.find?_eq_none.mpr
    intro c hc
    rw [not_isControl_of_printable (h.isPrintable c hc)]
    exact Bool.false_ne_true
  rw [checkPart, if_neg short, clean]

theorem exists_server (h : IsPlainName host) (port : Int) :
    ∃ text, server host.toList (integerText port) = .ok text := by
  have encoded : ∃ written, encode host.toList = .ok written ∧ Text.IsPrintable written := by
    unfold encode
    split
    · exact ⟨[], rfl, Text.isPrintable_nil⟩
    split
    · next resembles =>
      rw [if_pos (h.address (looksNumeric_of_resemblesIpv4 resembles))]
      exact ⟨_, rfl, h.isPrintable⟩
    have all : (host.toList.all fun c => c.toNat < 0x80) = true := by
      apply List.all_eq_true.mpr
      intro c hc
      have := (h.isPrintable c hc).2
      exact decide_eq_true (by omega)
    rw [if_neg h.not_isBracketed, if_pos all]
    exact ⟨_, rfl, Text.isPrintable_percentEncode isNameChar (fun _ => rfl) (by decide) _⟩
  obtain ⟨written, encoded, printable⟩ := encoded
  have whole : ((written ++ ':' :: integerText port).all fun c => c.toNat < 0x80) = true := by
    apply List.all_eq_true.mpr
    intro c hc
    have := (printable.append (.cons (by decide) (Text.isPrintable_integerText port)) c hc).2
    exact decide_eq_true (by omega)
  exact ⟨written ++ ':' :: integerText port, bind_eq_ok_iff.mpr ⟨written, encoded, if_pos whole⟩⟩

end IsPlainName

/-- A query holds no control characters, so it can only be too long. -/
theorem checkPart_query_eq_error {params : List (String × String)} {fault : Fault}
    (h : checkPart .query (Text.formEncodeAll params) = .error fault) :
    fault = .partTooLong .query ∧ maxPartLength < (Text.formEncodeAll params).length := by
  unfold checkPart at h
  split at h
  · next long => exact ⟨(Except.error.inj h).symm, long⟩
  · have clean : (Text.formEncodeAll params).find? isControl = none := by
      apply List.find?_eq_none.mpr
      intro c hc
      rw [not_isControl_of_printable (Text.isPrintable_formEncodeAll params c hc)]
      exact Bool.false_ne_true
    rw [clean] at h
    cases h

/-- A plain name is refused for the size of the query or of the port alone. -/
theorem makeUrl_eq_error {host : String} {port : Int} {params : List (String × String)}
    {fault : Fault} (plain : IsPlainName host) (h : makeUrl host port params = .error fault) :
    (fault = .integerTooLong Text.maxDigits ∧ ¬ Text.isReadable port = true) ∨
      (fault = .partTooLong .query ∧ maxPartLength < (Text.formEncodeAll params).length) := by
  rcases bind_eq_error_iff.mp h with port | ⟨digits, written, h⟩
  · rw [integerString] at port
    split at port
    · cases port
    · next long => exact .inl ⟨(Except.error.inj port).symm, long⟩
  rw [integerString] at written
  split at written
  · cases written
    dsimp only at h
    rw [plain.bracketed_eq, plain.checkPart_eq] at h
    rcases bind_eq_error_iff.mp h with check | ⟨_, -, h⟩
    · cases check
    rcases bind_eq_error_iff.mp h with query | ⟨_, -, h⟩
    · exact .inr (checkPart_query_eq_error query)
    obtain ⟨text, made⟩ := plain.exists_server port
    rw [String.toList_ofList, made] at h
    cases h
  · cases written

theorem foreign_makeUrl {host : String} {port : Int} {params : List (String × String)}
    {fault : Fault} (h : makeUrl host port params = .error fault) :
    (∀ field reason, fault ≠ .undecodable field reason) ∧
      ∀ name, fault ≠ .unsupportedProtocol name := by
  have checked {part : LinkPart} {cs : List Char} (h : checkPart part cs = .error fault) :
      (∀ field reason, fault ≠ .undecodable field reason) ∧
        ∀ name, fault ≠ .unsupportedProtocol name := by
    unfold checkPart at h
    repeat' split at h
    all_goals cases h
    all_goals simp
  rcases bind_eq_error_iff.mp h with port | ⟨digits, -, h⟩
  · rw [integerString] at port
    split at port
    · cases port
    · cases port
      simp
  rcases bind_eq_error_iff.mp h with check | ⟨_, -, h⟩
  · exact checked check
  rcases bind_eq_error_iff.mp h with check | ⟨_, -, h⟩
  · exact checked check
  rcases bind_eq_error_iff.mp h with server | ⟨_, -, h⟩
  · rcases bind_eq_error_iff.mp server with encoded | ⟨_, -, server⟩
    · unfold encode at encoded
      repeat' split at encoded
      all_goals cases encoded
      all_goals simp
    · dsimp only at server
      split at server
      · cases server
      · cases server
        simp
  · cases h

theorem lawful_library : library.Lawful where
  query made := (makeUrl_eq_ok made).1
  server := by
    refine ⟨fun host => ((encode (bracketed host.toList)).toOption).getD [], ?_⟩
    intro scheme host port params url _ made
    obtain ⟨written, encoded, whole, -⟩ := server_eq_ok (makeUrl_eq_ok made).2.2
    dsimp only
    rw [whole, encoded]
    rfl
  printable made := isPrintable_server made
  host := by
    intro scheme host port params url _ plain made
    obtain ⟨written, encoded, whole, -⟩ := server_eq_ok (makeUrl_eq_ok made).2.2
    rcases writtenAs_of_encode encoded with known | ⟨wide, -⟩
    · exact ⟨written, known, whole⟩
    · exact absurd plain.bracketed_chars.1 wide
  foreign refused := foreign_makeUrl refused
  name plain refused := makeUrl_eq_error plain refused

end ShareLinks.Host

namespace ShareLinks.Link

/-- Remarks that are not annotated, and URLs of the lawful library. -/
def plainManner : Manner where
  separator := " "
  showInfo := false
  now := .int 5
  urls := Host.library

theorem lawful_plainManner : plainManner.urls.Lawful :=
  Host.lawful_library

end ShareLinks.Link
