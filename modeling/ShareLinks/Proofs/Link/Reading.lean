import ShareLinks.Link.Uri
import ShareLinks.Proofs.Sequence
import ShareLinks.Proofs.Url

/-!
# Reading back URI links

A URI link is taken apart at the signs between its parts, and each part is decoded by the rule
that it was encoded by. Every part escapes the signs that would end it, so taking apart what was
put together gives the parts again.
-/

namespace ShareLinks.Link

open Text

/-- A URI link taken apart, its parts still encoded. -/
structure UriText where
  scheme : List Char
  userinfo : List Char
  host : List Char
  port : List Char
  query : Option (List Char)
  fragment : Option (List Char)

/-- Takes a URI link apart: the scheme before `://`, the fragment behind the first `#`, the query
behind the first `?`, the user before the last `@`, and the port behind the last `:`. -/
def UriText.read? (cs : List Char) : Option UriText :=
  match cut ':' cs with
  | (scheme, some ('/' :: '/' :: rest)) =>
    let (rest, fragment) := cut '#' rest
    let (rest, query) := cut '?' rest
    match cutLast? '@' rest with
    | some (userinfo, server) =>
      match cutLast? ':' server with
      | some (host, port) => some { scheme, userinfo, host, port, query, fragment }
      | none => none
    | none => none
  | _ => none

/-- The value of decimal digits, of which there has to be one. -/
def natural? (ds : List Char) : Option Nat :=
  if ds ≠ [] ∧ ds.all Char.isDigit then some (digitsValue ds) else none

/-- A decimal integer with at most a minus in front. -/
def decimal? : List Char → Option Int
  | '-' :: ds => (natural? ds).map fun (n : Nat) => -(n : Int)
  | ds => (natural? ds).map fun (n : Nat) => (n : Int)

/-- A host without the brackets of an address of version 6. -/
def unbracketed (cs : List Char) : List Char :=
  if Host.isBracketed cs then (cs.drop 1).dropLast else cs

/-- A link denotes the parts that its own parts are decoded to. Hosts are compared without regard
to the case of ASCII letters, and an empty remark has no fragment. -/
structure UriText.Denotes (text : UriText) (u : UriParts) : Prop where
  scheme : text.scheme = u.scheme.toList
  credential : percentDecode text.userinfo = u.credential.toList
  host : (unbracketed (percentDecode text.host)).map Char.toLower =
    (unbracketed u.host.toList).map Char.toLower
  port : decimal? text.port = some u.port
  query : text.query.map formDecodeAll =
    some (u.query.map fun (name, value) => (name.toList, value.toList))
  remark : text.fragment.map percentDecode =
    if u.remark.isEmpty then none else some u.remark.toList

theorem not_mem_integerText {c : Char} (sign : c ≠ '-' ∧ c.isDigit = false) (n : Int) :
    c ∉ integerText n := by
  intro h
  rcases mem_integerText h with minus | digit
  · exact sign.1 minus
  · rw [sign.2] at digit
    cases digit

theorem natural?_decimalDigits (n : Nat) : natural? (decimalDigits n) = some n := by
  have digits : (decimalDigits n).all Char.isDigit = true :=
    List.all_eq_true.mpr fun c hc => isDigit_of_mem_decimalDigits hc
  rw [natural?, if_pos ⟨decimalDigits_ne_nil n, digits⟩, digitsValue_decimalDigits]

theorem decimal?_integerText (n : Int) : decimal? (integerText n) = some n := by
  have value := natural?_decimalDigits n.natAbs
  unfold integerText
  split
  · next negative =>
    rw [decimal?, value, Option.map_some]
    exact congrArg some (show -(n.natAbs : Int) = n by omega)
  · next positive =>
    unfold decimal?
    split
    · next ds minus =>
      have digit : '-'.isDigit = true :=
        isDigit_of_mem_decimalDigits (n := n.natAbs) (by rw [minus]; exact List.mem_cons_self)
      exact absurd digit (by decide)
    · rw [value, Option.map_some]
      exact congrArg some (show (n.natAbs : Int) = n by omega)

/-- The brackets that a colon asks for are no part of the host. -/
theorem unbracketed_bracketed (cs : List Char) :
    unbracketed (Host.bracketed cs) = unbracketed cs := by
  unfold Host.bracketed
  split
  · next needs =>
    rw [Bool.and_eq_true, Bool.not_eq_true'] at needs
    have brackets : Host.isBracketed ('[' :: cs ++ [']']) = true := by
      have last : ('[' :: cs ++ [']']).getLast? = some ']' := List.getLast?_concat
      rw [Host.isBracketed, last]
      simp
    rw [unbracketed, if_pos brackets, unbracketed, needs.2]
    simp
  · rfl

theorem toLower_eq_iff {c d : Char} (sign : d.toLower = d ∧ d.isLower = false) :
    c.toLower = d ↔ c = d := by
  constructor
  · intro h
    unfold Char.toLower at h
    split at h
    · next upper =>
      have lower : d.isLower = true := by
        rw [← h]
        simp only [ge_iff_le, UInt32.le_iff_toNat_le, Char.reduceVal, UInt32.reduceToNat] at upper
        delta Char.isLower
        simp only [ge_iff_le, UInt32.le_iff_toNat_le, UInt32.toNat_add,
          Char.reduceVal, UInt32.reduceToNat, UInt32.reduceSub, Bool.and_eq_true,
          decide_eq_true_eq]
        omega
      rw [sign.2] at lower
      cases lower
    · exact h
  · rintro rfl
    exact sign.1

theorem isBracketed_map_toLower (cs : List Char) :
    Host.isBracketed (cs.map Char.toLower) = Host.isBracketed cs := by
  have same {o : Option Char} {d : Char} (sign : d.toLower = d ∧ d.isLower = false) :
      (o.map Char.toLower == some d) = (o == some d) := by
    cases o with
    | none => rfl
    | some c =>
      rw [Bool.eq_iff_iff]
      simp [toLower_eq_iff sign]
  rw [Host.isBracketed, List.length_map, List.head?_map, List.getLast?_map,
    same (by decide), same (by decide), Host.isBracketed]

theorem unbracketed_map_toLower (cs : List Char) :
    unbracketed (cs.map Char.toLower) = (unbracketed cs).map Char.toLower := by
  rw [unbracketed, isBracketed_map_toLower, unbracketed]
  split
  · rw [List.map_dropLast, List.map_drop]
  · rfl

/-- A written link is put together of its escaped parts, with server and query of a URL. -/
theorem render_eq_ok {urls : UrlLibrary} {u : UriParts} {text : String}
    (h : u.render urls = .ok text) :
    ∃ url, urls.make u.scheme u.host u.port u.query = .ok url ∧
      text.toList = u.scheme.toList ++ ':' :: '/' :: '/' ::
        (percentEncode isCredentialChar u.credential.toList ++ '@' :: (url.server ++
          UriParts.queryText url.query ++ UriParts.remarkText u.remark)) := by
  obtain ⟨url, made, h⟩ := bind_eq_ok_iff.mp h
  cases h
  refine ⟨url, made, ?_⟩
  rw [String.toList_ofList]
  simp

/-- What stands in front of the remark is found before its sign. -/
theorem cut_remark {before : List Char} (h : '#' ∉ before) (remark : String) :
    cut '#' (before ++ UriParts.remarkText remark) =
      (before, if remark.isEmpty then none
        else some (percentEncode isRemarkChar remark.toList)) := by
  unfold UriParts.remarkText
  split
  · rw [List.append_nil, cut_of_not_mem h]
  · rw [cut_append h]

/-- The parts of a link that was put together of parts without their end signs. -/
theorem UriText.read?_eq {scheme user host query : List Char} (port : Int) (remark : String)
    (hscheme : ':' ∉ scheme) (huser : '#' ∉ user ∧ '?' ∉ user)
    (hhost : ∀ c ∈ host, Host.isDelimiter c = false) (hquery : '#' ∉ query ∧ query ≠ []) :
    UriText.read? (scheme ++ ':' :: '/' :: '/' ::
      (user ++ '@' :: (host ++ ':' :: integerText port ++ UriParts.queryText query ++
        UriParts.remarkText remark))) =
      some { scheme, userinfo := user, host, port := integerText port, query := some query,
             fragment := if remark.isEmpty then none
               else some (percentEncode isRemarkChar remark.toList) } := by
  have noSign {d : Char} (h : Host.isDelimiter d = true) : d ∉ host := by
    intro hd
    rw [hhost d hd] at h
    cases h
  have port_server {d : Char} (h : Host.isDelimiter d = true)
      (h' : (d ≠ '-' ∧ d.isDigit = false) ∧ d ≠ ':') : d ∉ host ++ ':' :: integerText port := by
    simp [noSign h, not_mem_integerText h'.1 port, h'.2]
  have front {d : Char} (h : Host.isDelimiter d = true) (hd : d ∉ user)
      (h' : ((d ≠ '-' ∧ d.isDigit = false) ∧ d ≠ ':') ∧ d ≠ '@') :
      d ∉ user ++ '@' :: (host ++ ':' :: integerText port) := by
    have := port_server h h'.1
    rw [List.mem_append, List.mem_cons, not_or, not_or]
    exact ⟨hd, h'.2, this⟩
  have before : '#' ∉ user ++ '@' :: (host ++ ':' :: integerText port) ++ '?' :: query := by
    rw [List.mem_append, List.mem_cons, not_or, not_or]
    exact ⟨front (by decide) huser.1 (by decide), by decide, hquery.1⟩
  have whole : user ++ '@' :: (host ++ ':' :: integerText port ++ UriParts.queryText query ++
      UriParts.remarkText remark) =
        user ++ '@' :: (host ++ ':' :: integerText port) ++ '?' :: query ++
          UriParts.remarkText remark := by
    have some : query.isEmpty = false := by simpa using hquery.2
    rw [UriParts.queryText, some]
    simp
  have query_cut := cut_append (front (d := '?') (by decide) huser.2 (by decide)) query
  have authority := cutLast?_append (port_server (d := '@') (by decide) (by decide)) user
  have address := cutLast?_append (not_mem_integerText (c := ':') (by decide) port) host
  simp only [UriText.read?, whole, cut_append hscheme, cut_remark before, query_cut, authority,
    address]

theorem percentDecode_credential (cs : List Char) :
    percentDecode (percentEncode isCredentialChar cs) = cs := by
  refine percentDecode_percentEncode ?_
  rintro c - kept rfl
  exact absurd kept (by decide)

theorem percentDecode_remark (cs : List Char) :
    percentDecode (percentEncode isRemarkChar cs) = cs := by
  refine percentDecode_percentEncode ?_
  rintro c - kept rfl
  exact absurd kept (by decide)

/-- Taking apart a written link gives parts that denote those it was written of. -/
theorem denotes_of_render {urls : UrlLibrary} (lawful : urls.Lawful) {u : UriParts} {text : String}
    (h : u.render urls = .ok text) (known : u.scheme ∉ UrlLibrary.schemesWithPort)
    (scheme : ':' ∉ u.scheme.toList) (query : u.query ≠ []) (plain : Host.IsPlainHost u.host) :
    ∃ t, UriText.read? text.toList = some t ∧ t.Denotes u := by
  obtain ⟨url, made, whole⟩ := render_eq_ok h
  obtain ⟨host, written, server⟩ := lawful.host known plain made
  obtain ⟨ascii, percent⟩ := plain.bracketed_chars
  obtain ⟨same, delimiters⟩ := written.readable ascii percent
  have user {d : Char} (sign : isCredentialChar d = false ∧ d ≠ '%' ∧ d.isAlphanum = false) :
      d ∉ percentEncode isCredentialChar u.credential.toList := not_mem_percentEncode sign _
  have read := UriText.read?_eq u.port u.remark scheme
    ⟨user (d := '#') (by decide), user (d := '?') (by decide)⟩ delimiters
    ⟨not_mem_formEncodeAll (by decide) u.query, formEncodeAll_ne_nil query⟩
  rw [server, lawful.query made] at whole
  rw [← whole] at read
  refine ⟨_, read, rfl, percentDecode_credential _, ?_, decimal?_integerText u.port, ?_, ?_⟩
  · rw [← unbracketed_map_toLower, same, unbracketed_map_toLower, unbracketed_bracketed]
  · rw [Option.map_some, formDecodeAll_formEncodeAll]
  · split
    · rfl
    · rw [Option.map_some, percentDecode_remark]

theorem isPrintable_render {urls : UrlLibrary} (lawful : urls.Lawful) {u : UriParts}
    {text : String} (h : u.render urls = .ok text) (scheme : IsPrintable u.scheme.toList) :
    IsPrintable text.toList := by
  obtain ⟨url, made, whole⟩ := render_eq_ok h
  have user : IsPrintable (percentEncode isCredentialChar u.credential.toList) :=
    isPrintable_percentEncode _ (fun _ => rfl) (by decide) _
  have query : IsPrintable (UriParts.queryText url.query) := by
    unfold UriParts.queryText
    split
    · exact isPrintable_nil
    · rw [lawful.query made]
      exact .cons (by decide) (isPrintable_formEncodeAll u.query)
  have remark : IsPrintable (UriParts.remarkText u.remark) := by
    unfold UriParts.remarkText
    split
    · exact isPrintable_nil
    · exact .cons (by decide) (isPrintable_percentEncode _ (fun _ => rfl) (by decide) _)
  rw [whole]
  exact scheme.append (.cons (by decide) (.cons (by decide) (.cons (by decide)
    (user.append (.cons (by decide) (((lawful.printable made).append query).append remark))))))

end ShareLinks.Link
