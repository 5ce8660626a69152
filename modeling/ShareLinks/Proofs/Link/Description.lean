import ShareLinks.Proofs.Host.Library
import ShareLinks.Proofs.Link.Credential
import ShareLinks.Proofs.Link.Intended

/-!
# What vmess links say

The fields of a description are set group by group, and a later group wins. What a description is
to say under each name is written down here on its own. Every line of a vmess link, decoded and
read, says exactly that, with its names in order.
-/

namespace ShareLinks

/-- The names under which transports say something in a description. -/
def Transport.vmessNames : List String :=
  ["type", "path", "host", "mode", "authority"]

theorem Transport.names_vmessFields (t : Transport) :
    (t.vmessFields.map (·.1)).Nodup ∧ ∀ name ∈ t.vmessFields.map (·.1), name ∈ vmessNames := by
  cases t with
  | tcp t =>
    by_cases http : t.headerType = "http"
    · simp [vmessFields, Tcp.vmessFields, http, vmessNames]
    · simp [vmessFields, Tcp.vmessFields, http, vmessNames]
  | kcp t => simp [vmessFields, Kcp.vmessFields, vmessNames]
  | webSocket t => simp [vmessFields, HttpRoute.linkParams, vmessNames]
  | grpc t =>
    cases multi : t.multiMode with
    | true => simp [vmessFields, Grpc.vmessFields, multi, vmessNames]
    | false => simp [vmessFields, Grpc.vmessFields, multi, vmessNames]
  | httpUpgrade t => simp [vmessFields, HttpRoute.linkParams, vmessNames]
  | xhttp t => simp [vmessFields, XHttp.linkParams, vmessNames]

theorem Stream.names_vmessFields (s : Stream) :
    (s.vmessFields.map (·.1)).Nodup ∧
      ∀ name ∈ s.vmessFields.map (·.1), name ∈ Transport.vmessNames := by
  unfold vmessFields
  cases s.transport? with
  | none => simp
  | some t => exact t.names_vmessFields

theorem Stream.lookup_vmessFields (s : Stream) {name : String}
    (other : name ∉ Transport.vmessNames) : s.vmessFields.lookup name = none :=
  lookup_eq_none_of_not_mem fun known => other (s.names_vmessFields.2 name known)

theorem names_optionalParam (name : String) (value : Option String) :
    ((optionalParam name value).map (·.1)).Sublist [name] := by
  cases value with
  | none => exact List.nil_sublist _
  | some v => exact List.Sublist.refl _

theorem lookup_optionalParam (name key : String) (value : Option String) :
    (optionalParam key value).lookup name = if name = key then value else none := by
  simpa [optionalParam] using lookup_optional key value id

namespace Tls

theorem names_commonParams (t : Tls) :
    (t.commonParams.map (·.1)).Sublist ["alpn", "sni", "fp"] := by
  have protocols : ((if t.alpn.isEmpty then [] else [("alpn", t.alpnText)] : Params).map
      (·.1)).Sublist ["alpn"] := by
    split <;> simp
  have whole := (protocols.append (names_optionalParam "sni" t.serverName)).append
    (names_optionalParam "fp" t.fingerprint)
  simpa [commonParams] using whole

/-- TLS settings say nothing twice, and only what an endpoint without security leaves out. -/
theorem names_vmessFields (t : Tls) : (t.vmessFields.map (·.1)).Sublist Link.tlsNames := by
  have permission : (t.allowInsecure.toList.map fun _ => "allowInsecure").Sublist
      ["allowInsecure"] := by
    cases t.allowInsecure <;> simp
  simpa [vmessFields, Function.comp_def, Link.tlsNames] using t.names_commonParams.append permission

theorem lookup_alpn (t : Tls) (name : String) :
    (if t.alpn.isEmpty then [] else [("alpn", t.alpnText)] : Params).lookup name =
      if name = "alpn" then if t.alpn = [] then none else some t.alpnText else none := by
  by_cases empty : t.alpn = []
  · simp [empty]
  · rw [if_neg (by simpa using empty), if_neg empty]
    exact lookup_singleton "alpn" t.alpnText

theorem lookup_commonParams (t : Tls) (name : String) :
    t.commonParams.lookup name =
      ((if name = "alpn" then if t.alpn = [] then none else some t.alpnText else none).or
        (if name = "sni" then t.serverName else none)).or
      (if name = "fp" then t.fingerprint else none) := by
  rw [commonParams, List.lookup_append, List.lookup_append, lookup_optionalParam,
    lookup_optionalParam, lookup_alpn]

theorem lookup_vmessFields (t : Tls) (name : String) :
    t.vmessFields.lookup name =
      ((if name = "alpn" then if t.alpn = [] then none else some (.string t.alpnText) else none).or
        (if name = "sni" then t.serverName.map .string else none)).or
      ((if name = "fp" then t.fingerprint.map .string else none).or
        (if name = "allowInsecure" then t.allowInsecure.map .bool else none)) := by
  rw [vmessFields, List.lookup_append, lookup_map_value, lookup_commonParams, lookup_optional]
  by_cases alpn : name = "alpn"
  · subst alpn
    by_cases empty : t.alpn = []
    · simp [empty]
    · simp [empty]
  · by_cases sni : name = "sni"
    · simp [sni]
    · simp only [alpn, sni, if_false, Option.none_or]
      split <;> rfl

end Tls

namespace Link.Vmess

/-- Of the fields that are set under a name the last one counts. -/
theorem lookup_setAll (name : String) (fields new : Fields) :
    (setAll fields new).lookup name = (new.reverse.lookup name).or (fields.lookup name) := by
  induction new generalizing fields with
  | nil => simp [setAll]
  | cons field new ih =>
    obtain ⟨key, value⟩ := field
    have rest : (setAll fields ((key, value) :: new)).lookup name =
        (new.reverse.lookup name).or (if name = key then some value else fields.lookup name) := by
      rw [← lookup_set]
      exact ih _
    rw [rest, List.reverse_cons, List.lookup_append, Option.or_assoc]
    by_cases same : name = key
    · simp [same]
    · rw [if_neg same, lookup_cons_of_ne same]
      simp

/-- The security that a line names: that in front of its target, or else that of the stream. -/
def lineSecurity (s : Stream) (e : Endpoint) : String :=
  if e.forceTls ≠ "same" then e.forceTls
  else if s.security ∈ ["tls", "reality"] then s.security
  else "none"

/-- The TLS settings that a line tells, if it tells any. -/
def lineTls? (s : Stream) (e : Endpoint) : Option Tls :=
  if s.security = "tls" ∧ e.forceTls ≠ "none" then some s.tls else none

/-- What the description of a connection is to say under each name. -/
def intended (i : Inbound) (c : Client) (e : Endpoint) (remark : String) : String → Option Json
  | "v" => some (.string "2")
  | "add" => some (.string e.dest)
  | "port" => some (.int e.port)
  | "net" => some (.string i.stream.network)
  | "type" => some (.string (((transportFields i.stream).lookup "type").getD "none"))
  | "tls" => some (.string (lineSecurity i.stream e))
  | "alpn" => (lineTls? i.stream e).bind fun t =>
      if t.alpn = [] then none else some (.string (String.intercalate "," t.alpn))
  | "sni" => (lineTls? i.stream e).bind fun t => t.serverName.map .string
  | "fp" => (lineTls? i.stream e).bind fun t => t.fingerprint.map .string
  | "allowInsecure" => (lineTls? i.stream e).bind fun t => t.allowInsecure.map .bool
  | "id" => some (.string c.id)
  | "scy" => some (.string (if c.security = "" then "auto" else c.security))
  | "ps" => some (.string remark)
  | name => ((transportFields i.stream).lookup name).map .string

theorem names_tlsFields (s : Stream) (e : Endpoint) :
    ((tlsFields s e.forceTls).map (·.1)).Nodup := by
  unfold tlsFields
  split
  · exact s.tls.names_vmessFields.nodup (by decide)
  · exact List.nodup_nil

theorem lookup_tlsFields (s : Stream) (e : Endpoint) (name : String) :
    (tlsFields s e.forceTls).lookup name =
      (lineTls? s e).bind fun t => t.vmessFields.lookup name := by
  by_cases tells : s.security = "tls" ∧ e.forceTls ≠ "none"
  · simp [tlsFields, lineTls?, Stream.isTls, tells]
  · simp [tlsFields, lineTls?, Stream.isTls, tells]

theorem lookup_description_eq (i : Inbound) (c : Client) (e : Endpoint) (remark name : String) :
    (description i c e remark).lookup name = intended i c e remark name := by
  have transport : ((i.stream.vmessFields.map fun field =>
      (field.1, Json.string field.2)).map (·.1)).Nodup := by
    simpa [Function.comp_def] using i.stream.names_vmessFields.1
  have tls := names_tlsFields i.stream e
  have security : (if e.forceTls = "same" then securityName i.stream else e.forceTls) =
      lineSecurity i.stream e := by
    simp [lineSecurity, securityName, Stream.isTls, Stream.isReality]
  unfold description assignments
  rw [lookup_setAll]
  simp only [List.reverse_append, List.lookup_append, lookup_reverse transport, lookup_reverse tls,
    lookup_map_value, lookup_tlsFields, Tls.lookup_vmessFields, security, List.reverse_cons,
    List.reverse_nil, List.nil_append, lookup_singleton, List.lookup_nil, Option.or_none]
  fun_cases intended i c e remark name
  case case14 v add port net type tls alpn sni fp allowInsecure id scy ps =>
    simp [← vmessFields_eq, if_neg v, if_neg add, if_neg port, if_neg net, if_neg type,
      if_neg tls, if_neg alpn, if_neg sni, if_neg fp, if_neg allowInsecure, if_neg id, if_neg scy,
      if_neg ps]
  case case5 =>
    rw [← vmessFields_eq]
    cases i.stream.vmessFields.lookup "type" with
    | none => simp
    | some value => simp
  all_goals
    simp [Stream.lookup_vmessFields, Transport.vmessNames, Tls.alpnText]

/-- A line says some fields: behind its scheme stands the base64 of the UTF-8 text of one object
with just these fields, in the order of their names, and the text is read as this object. -/
structure Says (line : List Char) (fields : Fields) : Prop where
  ordered : IsOrdered fields
  decodes : ∃ payload written, line = "vmess://".toList ++ payload ∧
    textOfBase64? payload = some written ∧ written = (Json.object fields).text style ∧
    Json.parse written = .ok (.object fields)

/-- Fields in order are the same if they say the same under each name. -/
theorem IsOrdered.ext {fields other : Fields} (h : IsOrdered fields) (h' : IsOrdered other)
    (same : ∀ name, fields.lookup name = other.lookup name) : fields = other := by
  have antisymm (a b : String × Json) (_ : a ∈ fields) (_ : b ∈ other) (ab : a.1 < b.1)
      (ba : b.1 < a.1) : a = b := absurd ba (lt_asymm ab)
  refine List.Perm.eq_of_pairwise antisymm h h' ?_
  apply (List.perm_ext_iff_of_nodup h.nodup_names.of_map h'.nodup_names.of_map).mpr
  intro (name, value)
  rw [mem_iff_lookup_eq_some h.nodup_names, mem_iff_lookup_eq_some h'.nodup_names, same]

/-- Fields that say what is intended, in order, are the description. -/
theorem IsOrdered.eq_description {fields : Fields} (h : IsOrdered fields) {i : Inbound} {c : Client}
    {e : Endpoint} {remark : String}
    (told : ∀ name, fields.lookup name = intended i c e remark name) :
    fields = description i c e remark := by
  apply h.ext (isOrdered_setAll List.Pairwise.nil _)
  intro name
  rw [told]
  exact (lookup_description_eq i c e remark name).symm

theorem says_of_render {i : Inbound} {c : Client} {e : Endpoint} {remark text : String}
    (h : render (description i c e remark) = .ok text) :
    Says text.toList (description i c e remark) := by
  obtain ⟨written, wrote, whole⟩ := vmess_eq_ok h
  have distinct := hasDistinctNames_description i c e remark
  obtain ⟨-, rendered⟩ := (Json.write_eq_ok_iff _ _ _).mp wrote
  constructor
  · exact isOrdered_setAll List.Pairwise.nil _
  · refine ⟨_, written.toList, whole, textOfBase64?_encode _, ?_, ?_⟩
    · rw [rendered, Json.render, String.toList_ofList]
    · rw [Json.parse_write wrote, Json.normal_eq_self _ distinct]

end Link.Vmess

namespace Inbound

/-- Every line of a vmess link says what is intended for its target. -/
theorem vmess_lines_say_intended {i : Inbound} {c : Client} {manner : Link.Manner}
    {address email text : String} {source after : Source} (protocol : i.protocol? = some .vmess)
    (found : i.settings.find? email = some c)
    (h : i.linkOf .vmess manner address email source = (.ok text, after)) :
    Link.ForEachTarget i address
      (fun (e : Endpoint) (line : List Char) =>
        ∃ fields remark, Link.Vmess.Says line fields ∧
          i.remarkText manner email e.remark = .ok remark ∧
          ∀ name, fields.lookup name = Link.Vmess.intended i c e remark name)
      (Text.splitOn (· == '\n') text.toList) := by
  have dispatched : i.link manner address email source = (.ok text, after) := by
    rw [link, protocol]
    exact h
  obtain ⟨written, lines, rfl, -⟩ := link_eq_ok protocol found dispatched
  have email_eq := Settings.email_of_find? found
  apply Link.forEachTarget_of_targets
  rw [Link.splitOn_lines (absurd rfl) lines, List.forall₂_map_right_iff]
  apply (mapM_eq_ok_iff.mp lines).imp
  intro e line wrote
  obtain ⟨remark, remarked, vmess, -⟩ := Link.line_eq_ok wrote
  rw [email_eq] at remarked
  exact ⟨_, remark, Link.Vmess.says_of_render (vmess rfl), remarked,
    Link.Vmess.lookup_description_eq i c e remark⟩

/-- An inbound behind two endpoints, one of which takes the security away. -/
def frontedInbound : Inbound :=
  { port := 443
    protocol := "vmess"
    settings := { clients := [{ email := "a\"é", id := "k\n1" }] }
    stream :=
      { network := "grpc"
        security := "tls"
        grpc := { serviceName := "svc", multiMode := true }
        tls := { serverName := some "ex.org", allowInsecure := some false }
        endpoints :=
          [{ forceTls := "none", dest := "b.example", port := 80 }, { dest := "📊", port := -1 }] } }

/-- What its two lines say. -/
def plainFields : Fields :=
  [("add", .string "b.example"), ("authority", .string ""), ("id", .string "k\n1"),
    ("net", .string "grpc"), ("path", .string "svc"), ("port", .int 80), ("ps", .string "a\"é"),
    ("scy", .string "auto"), ("tls", .string "none"), ("type", .string "multi"),
    ("v", .string "2")]

def secureFields : Fields :=
  [("add", .string "📊"), ("allowInsecure", .bool false), ("authority", .string ""),
    ("id", .string "k\n1"), ("net", .string "grpc"), ("path", .string "svc"), ("port", .int (-1)),
    ("ps", .string "a\"é"), ("scy", .string "auto"), ("sni", .string "ex.org"),
    ("tls", .string "tls"), ("type", .string "multi"), ("v", .string "2")]

/-- The first line, decoded, is the text of its fields. -/
theorem fronted_lines_say_intended :
    ∃ text first second payload,
      frontedInbound.linkOf .vmess Link.plainManner "unused" "a\"é" (Source.ofWords [0]) =
          (.ok text, Source.ofWords [0]) ∧
        Text.splitOn (· == '\n') text.toList = [first, second] ∧
        Link.Vmess.Says first plainFields ∧ Link.Vmess.Says second secureFields ∧
        first = "vmess://".toList ++ payload ∧
        Link.textOfBase64? payload = some
          ("\x7b\n  \"add\": \"b.example\",\n  \"authority\": \"\",\n  \"id\": \"k\\n1\"" ++
            ",\n  \"net\": \"grpc\",\n  \"path\": \"svc\",\n  \"port\": 80,\n" ++
            "  \"ps\": \"a\\\"é\",\n  \"scy\": \"auto\",\n  \"tls\": \"none\",\n" ++
            "  \"type\": \"multi\",\n  \"v\": \"2\"\n\x7d").toList := by
  have written : ∃ text, frontedInbound.linkOf .vmess Link.plainManner "unused" "a\"é"
      (Source.ofWords [0]) = (.ok text, Source.ofWords [0]) := ⟨_, rfl⟩
  obtain ⟨text, written⟩ := written
  obtain ⟨-, lines⟩ := vmess_lines_say_intended (c := { email := "a\"é", id := "k\n1" }) rfl rfl
    written
  obtain ⟨first, rest, said, lines', split⟩ := List.forall₂_cons_left_iff.mp (lines (by decide))
  obtain ⟨second, _, said', nothing, rfl⟩ := List.forall₂_cons_left_iff.mp lines'
  obtain rfl := List.forall₂_nil_left_iff.mp nothing
  obtain ⟨fields, remark, line₁, remarked, told⟩ := said
  obtain ⟨fields', remark', line₂, remarked', told'⟩ := said'
  obtain rfl : remark = "a\"é" := (Except.ok.inj remarked).symm
  obtain rfl : remark' = "a\"é" := (Except.ok.inj remarked').symm
  obtain rfl : fields = plainFields := line₁.ordered.eq_description told
  obtain rfl : fields' = secureFields := line₂.ordered.eq_description told'
  obtain ⟨payload, decoded, behind, encoded, rfl, -⟩ := line₁.decodes
  refine ⟨text, first, second, payload, written, split, line₁, line₂, behind, encoded.trans ?_⟩
  decide +kernel

end Inbound
end ShareLinks
