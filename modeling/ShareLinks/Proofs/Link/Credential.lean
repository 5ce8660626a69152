import Mathlib.Data.String.Basic
import ShareLinks.Proofs.Json.RoundTrip
import ShareLinks.Proofs.Link.Lines

/-!
# The credential in a link

Every line carries what its client signs in with: a vmess line as the id of its description, the
others in front of the server, where shadowsocks puts it behind the cipher and encodes both.
-/

namespace ShareLinks.Link

open Text

namespace Vmess

/-- Fields in the order of their names, none of them twice. -/
def IsOrdered (fields : Fields) : Prop :=
  fields.Pairwise fun a b => a.1 < b.1

theorem mem_set {name : String} {value : Json} {fields : Fields} {field : String × Json}
    (h : field ∈ set name value fields) : field = (name, value) ∨ field ∈ fields := by
  induction fields with
  | nil => exact .inl (List.mem_singleton.mp h)
  | cons first rest ih =>
    obtain ⟨other, old⟩ := first
    rw [set] at h
    split at h
    · exact (List.mem_cons.mp h).imp_right (List.mem_cons_of_mem _)
    split at h
    · exact List.mem_cons.mp h
    · rcases List.mem_cons.mp h with rfl | h
      · exact .inr List.mem_cons_self
      · exact (ih h).imp_right (List.mem_cons_of_mem _)

theorem IsOrdered.set {fields : Fields} (h : IsOrdered fields) (name : String) (value : Json) :
    IsOrdered (set name value fields) := by
  induction fields with
  | nil => exact List.pairwise_singleton _ _
  | cons first rest ih =>
    obtain ⟨other, old⟩ := first
    obtain ⟨below, rest_ordered⟩ := List.pairwise_cons.mp h
    rw [Vmess.set]
    split
    · next same =>
      subst same
      exact List.pairwise_cons.mpr ⟨below, rest_ordered⟩
    split
    · next before =>
      refine List.pairwise_cons.mpr ⟨fun field hfield => ?_, h⟩
      rcases List.mem_cons.mp hfield with rfl | hfield
      · exact before
      · exact lt_trans before (below field hfield)
    · next ne notBefore =>
      refine List.pairwise_cons.mpr ⟨fun field hfield => ?_, ih rest_ordered⟩
      rcases mem_set hfield with rfl | hfield
      · exact lt_of_le_of_ne (not_lt.mp notBefore) fun same => ne same.symm
      · exact below field hfield

theorem lookup_set (name key : String) (value : Json) (fields : Fields) :
    (set key value fields).lookup name =
      if name = key then some value else fields.lookup name := by
  induction fields with
  | nil =>
    by_cases h : name = key
    · simp [set, h]
    · rw [set, lookup_cons_of_ne h, if_neg h]
  | cons first rest ih =>
    obtain ⟨other, old⟩ := first
    rw [set]
    split
    · next same =>
      subst same
      by_cases h : name = key
      · simp [h]
      · rw [if_neg h, lookup_cons_of_ne h, lookup_cons_of_ne h]
    split
    · by_cases h : name = key
      · simp [h]
      · rw [if_neg h, lookup_cons_of_ne h]
    · next ne _ =>
      by_cases h : name = other
      · subst h
        simp [Ne.symm ne]
      · rw [lookup_cons_of_ne h, lookup_cons_of_ne h, ih]

theorem isOrdered_setAll {fields : Fields} (h : IsOrdered fields) (new : Fields) :
    IsOrdered (setAll fields new) := by
  induction new generalizing fields with
  | nil => exact h
  | cons field new ih => exact ih (h.set field.1 field.2)

theorem mem_setAll {fields new : Fields} {field : String × Json}
    (h : field ∈ setAll fields new) : field ∈ fields ∨ field ∈ new := by
  induction new generalizing fields with
  | nil => exact .inl h
  | cons first new ih =>
    rcases ih h with h | h
    · rcases mem_set h with rfl | h
      · exact .inr List.mem_cons_self
      · exact .inl h
    · exact .inr (List.mem_cons_of_mem _ h)

theorem IsOrdered.nodup_names {fields : Fields} (h : IsOrdered fields) : fields.names.Nodup := by
  rw [Fields.names, List.nodup_iff_pairwise_ne, List.pairwise_map]
  exact h.imp fun before => ne_of_lt before

theorem hasDistinctNames_assignments (i : Inbound) (c : Client) (e : Endpoint) (remark : String) :
    ∀ field ∈ assignments i c e remark, field.2.hasDistinctNames = true := by
  have tls : ∀ field ∈ tlsFields i.stream e.forceTls, field.2.hasDistinctNames = true := by
    intro field h
    unfold tlsFields at h
    split at h
    · rcases List.mem_append.mp h with h | h <;>
        (obtain ⟨_, -, rfl⟩ := List.mem_map.mp h; rfl)
    · cases h
  intro field h
  simp only [assignments, List.mem_append, List.mem_cons, List.not_mem_nil, or_false,
    List.mem_map] at h
  rcases h with (((h | ⟨_, -, rfl⟩) | rfl) | h) | h
  · rcases h with rfl | rfl | rfl | rfl | rfl <;> rfl
  · rfl
  · rfl
  · exact tls field h
  · rcases h with rfl | rfl | rfl <;> rfl

theorem hasDistinctNames_description (i : Inbound) (c : Client) (e : Endpoint) (remark : String) :
    (Json.object (description i c e remark)).hasDistinctNames = true := by
  have ordered : IsOrdered (description i c e remark) := isOrdered_setAll List.Pairwise.nil _
  refine (Json.hasDistinctNames_object _).mpr ⟨ordered.nodup_names, fun field hfield => ?_⟩
  rcases mem_setAll hfield with h | h
  · cases h
  · exact hasDistinctNames_assignments i c e remark field h

/-- The id of a description is that of the client, whatever else was set before it. -/
theorem lookup_description (i : Inbound) (c : Client) (e : Endpoint) (remark : String) :
    (description i c e remark).lookup "id" = some (.string c.id) := by
  unfold description assignments
  rw [setAll, List.foldl_append]
  simp [lookup_set]

end Vmess

/-- The text that some bytes encode, if they do. -/
def textOfBase64? (cs : List Char) : Option (List Char) := do
  let bytes ← Base64.decode? cs
  (Utf8.decode bytes).toOption

/-- What stands between the scheme and the first `@` of a URI link. -/
def userinfo? (cs : List Char) : Option (List Char) :=
  match cut ':' cs with
  | (_, some ('/' :: '/' :: rest)) =>
    match cut '@' rest with
    | (user, some _) => some (percentDecode user)
    | _ => none
  | _ => none

/-- The text behind the last colon, or the whole of it. -/
def behindColons (cs : List Char) : List Char :=
  match cutLast? ':' cs with
  | some (_, behind) => behind
  | none => cs

/-- The credential that a line of a link carries. -/
def carried? (p : Protocol) (line : List Char) : Option (List Char) :=
  match p with
  | .vmess => do
    let text ← textOfBase64? (line.drop "vmess://".length)
    let doc ← (Json.parse text).toOption
    let id ← (doc.field "id").string?
    pure id.toList
  | .shadowsocks => do
    let user ← userinfo? line
    let text ← textOfBase64? user
    pure (behindColons text)
  | _ => userinfo? line

/-- What a client signs in with, as far as its protocol carries it. -/
def signIn (p : Protocol) (c : Client) : List Char :=
  match p with
  | .trojan => c.password.toList
  | .shadowsocks => behindColons c.password.toList
  | _ => c.id.toList

theorem textOfBase64?_encode (cs : List Char) :
    textOfBase64? (Base64.encode (Utf8.encode cs)) = some cs := by
  rw [textOfBase64?, Base64.decode?_encode, Option.bind_eq_bind, Option.bind_some,
    Utf8.decode_encode]
  rfl

theorem userinfo?_of_render {urls : UrlLibrary} {u : UriParts} {text : String}
    (h : u.render urls = .ok text) (scheme : ':' ∉ u.scheme.toList) :
    userinfo? text.toList = some u.credential.toList := by
  obtain ⟨url, -, whole⟩ := render_eq_ok h
  have user : '@' ∉ percentEncode isCredentialChar u.credential.toList :=
    not_mem_percentEncode (by decide) _
  simp only [userinfo?, whole, cut_append scheme, cut_append user, percentDecode_credential]

theorem behindColons_of_not_mem {cs : List Char} (h : ':' ∉ cs) : behindColons cs = cs := by
  have reversed : ':' ∉ cs.reverse := by simpa using h
  simp only [behindColons, cutLast?, cut_of_not_mem reversed]

theorem behindColons_of_last {cs : List Char} (h : ':' ∉ cs) (before : List Char) :
    behindColons (before ++ ':' :: cs) = cs := by
  simp only [behindColons, cutLast?_append h]

/-- Only what stands behind the last colon counts, so whatever is put before it. -/
theorem behindColons_append (before cs : List Char) :
    behindColons (before ++ ':' :: cs) = behindColons cs := by
  by_cases colon : ':' ∈ cs
  · obtain ⟨behind, front, split, last⟩ :=
      List.eq_append_cons_of_mem (List.mem_reverse.mpr colon)
    have whole : cs = front.reverse ++ ':' :: behind.reverse := by
      rw [← List.reverse_reverse cs, split]
      simp
    have last' : ':' ∉ behind.reverse := by simpa using last
    rw [whole, behindColons_of_last last', ← List.cons_append, ← List.append_assoc,
      behindColons_of_last last']
  · rw [behindColons_of_last colon, behindColons_of_not_mem colon]

/-- The secret of shadowsocks ends in the password of the client, behind a colon. -/
theorem toList_shadowsocksSecret (s : Settings) (c : Client) :
    ∃ before, (shadowsocksSecret s c).toList = before ++ ':' :: c.password.toList := by
  unfold shadowsocksSecret
  split
  · exact ⟨s.method.toList ++ ':' :: s.password.toList, by simp⟩
  · exact ⟨s.method.toList, by simp⟩

/-- The description of a vmess line is read back, and its id with it. -/
theorem carried?_vmess {i : Inbound} {c : Client} {e : Endpoint} {remark text : String}
    (h : Vmess.render (Vmess.description i c e remark) = .ok text) :
    carried? .vmess text.toList = some c.id.toList := by
  obtain ⟨written, wrote, whole⟩ := vmess_eq_ok h
  have distinct := Vmess.hasDistinctNames_description i c e remark
  have behind :
      text.toList.drop "vmess://".length = Base64.encode (Utf8.encode written.toList) := by
    rw [whole, ← String.length_toList, List.drop_left]
  have field : (Json.object (Vmess.description i c e remark)).field "id" = .string c.id := by
    rw [Json.field, Json.fields, Vmess.lookup_description]
    rfl
  simp only [carried?, behind, textOfBase64?_encode, Json.parse_write wrote,
    Json.normal_eq_self _ distinct, Option.bind_eq_bind, Option.bind_some, Except.toOption, field,
    Json.string?]
  rfl

theorem carried?_of_line {p : Protocol} {i : Inbound} {c : Client}
    {choice : Option Reality.Choice} {manner : Manner} {e : Endpoint} {text : String}
    (h : line p i c choice manner e = .ok text) :
    carried? p text.toList = some (signIn p c) := by
  obtain ⟨remark, -, vmess, uri⟩ := line_eq_ok h
  have user (hp : p ≠ .vmess) : userinfo? text.toList = some (credential p i.settings c).toList :=
    userinfo?_of_render (uri hp) (scheme_plain p).1
  cases p with
  | vmess => exact carried?_vmess (vmess rfl)
  | vless => exact user (by decide)
  | trojan => exact user (by decide)
  | shadowsocks =>
    obtain ⟨before, secret⟩ := toList_shadowsocksSecret i.settings c
    have encoded := user (by decide)
    rw [credential, String.toList_ofList, secret] at encoded
    simp only [carried?, encoded, Option.bind_eq_bind, Option.bind_some, textOfBase64?_encode,
      behindColons_append]
    rfl

theorem carried?_nil (p : Protocol) : carried? p [] = none := by
  cases p <;> rfl

theorem carried?_of_lines {p : Protocol} {i : Inbound} {c : Client}
    {choice : Option Reality.Choice} {manner : Manner} {address : String} {written : List String}
    (lawful : p ≠ .vmess → manner.urls.Lawful)
    (h : lines p i c choice manner address = .ok written) :
    ∀ line ∈ splitOn (· == '\n') (String.intercalate "\n" written).toList,
      carried? p line = some (signIn p c) := by
  intro line hline
  rw [splitOn_lines lawful h] at hline
  obtain ⟨text, htext, rfl⟩ := List.mem_map.mp hline
  obtain ⟨e, -, wrote⟩ := exists_of_mem_mapM h htext
  exact carried?_of_line wrote

end ShareLinks.Link
