import ShareLinks.Proofs.Link.Randomness

/-!
# Descriptions and queries agree

A vmess link tells its client of a stream in the fields of a description, a vless link in the
parameters of a query. The two are written by different code and partly under different names, and
each has its own way of leaving out what an endpoint takes away. Unless the security is Reality,
which a description has no fields for, they tell the same configuration, line by line.
-/

namespace ShareLinks

namespace Link

/-- A field and a parameter are both there, with the same text. -/
def BothSay (v : Fields) (field : String) (q : Params) (name : String) : Prop :=
  ∃ text, v.lookup field = some (.string text) ∧ q.lookup name = some text

/-- A field and a parameter are both there, with the same text, or neither is. -/
def BothSayIfAny (v : Fields) (field : String) (q : Params) (name : String) : Prop :=
  v.lookup field = (q.lookup name).map .string

/-- A field has some text exactly when a parameter has it. -/
def EitherSays (text : String) (v : Fields) (field : String) (q : Params) (name : String) : Prop :=
  v.lookup field = some (.string text) ↔ q.lookup name = some text

/-- The fields of a description and the parameters of a query tell a client the same of a stream
on some network. -/
structure SameConfiguration (carrier : String) (v : Fields) (q : Params) : Prop where
  network : BothSay v "net" q "type"
  security : BothSay v "tls" q "security"
  common : ∀ name ∈ ["alpn", "sni", "fp", "host", "authority"], BothSayIfAny v name q name
  permission : q.lookup "allowInsecure" = some "1" ↔ v.lookup "allowInsecure" = some (.bool true)
  tcp : carrier = "tcp" →
    BothSayIfAny v "path" q "path" ∧ EitherSays "http" v "type" q "headerType"
  kcp : carrier = "kcp" → BothSay v "type" q "headerType" ∧ BothSay v "path" q "seed"
  request : carrier ∈ ["ws", "httpupgrade", "xhttp"] →
    BothSayIfAny v "path" q "path" ∧ BothSayIfAny v "mode" q "mode"
  grpc : carrier = "grpc" →
    BothSay v "path" q "serviceName" ∧ EitherSays "multi" v "type" q "mode"

section Query

variable {p : Protocol} {i : Inbound} {c : Client} {choice : Option Reality.Choice} {e : Endpoint}

theorem lookup_forced_type :
    (forced e.forceTls (params p i c choice)).lookup "type" = some i.stream.network := by
  have kept : ¬ (e.forceTls = "none" ∧ "type" ∈ tlsNames) := by simp [tlsNames]
  rw [lookup_forced, if_neg kept, lookup_params_type]
  rfl

theorem lookup_forced_transport {name : String} (h : name ∈ Transport.linkNames) :
    (forced e.forceTls (params p i c choice)).lookup name =
      i.stream.transportParams.lookup name := by
  have apart : ∀ name ∈ Transport.linkNames, name ∉ tlsNames ∧ name ≠ "security" := by decide
  obtain ⟨noTls, other⟩ := apart name h
  rw [lookup_forced, if_neg fun left => noTls left.2, lookup_params_transport h]
  simp [other]

theorem securityParams_of_not_reality (other : i.stream.security ≠ "reality") :
    securityParams p i.stream choice =
      if i.stream.isTls then i.stream.tls.linkParams else [("security", "none")] := by
  have absent : ¬ (i.stream.isReality && carriesReality p) = true := by
    simp [Stream.isReality, other]
  rw [securityParams, if_neg absent]

theorem lookup_forced_security (other : i.stream.security ≠ "reality") :
    (forced e.forceTls (params p i c choice)).lookup "security" =
      some (Vmess.lineSecurity i.stream e) := by
  have kept : ¬ (e.forceTls = "none" ∧ "security" ∈ tlsNames) := by simp [tlsNames]
  have named : (params p i c choice).lookup "security" =
      some (if i.stream.security = "tls" then "tls" else "none") := by
    rw [lookup_params_security (.inl (by decide)), securityParams_of_not_reality other]
    by_cases tls : i.stream.security = "tls"
    · simp [Stream.isTls, tls, Tls.linkParams]
    · simp [Stream.isTls, tls]
  rw [lookup_forced, if_neg kept, named, Option.map_some, Vmess.lineSecurity]
  by_cases same : e.forceTls = "same"
  · by_cases tls : i.stream.security = "tls"
    · simp [same, tls]
    · simp [same, tls, other]
  · simp [same]

theorem lookup_forced_tls (other : i.stream.security ≠ "reality") {name : String}
    (h : name ∈ tlsNames) :
    (forced e.forceTls (params p i c choice)).lookup name =
      (Vmess.lineTls? i.stream e).bind fun t => t.linkParams.lookup name := by
  have notSecurity : name ≠ "security" := by
    rintro rfl
    exact absurd h (by decide)
  rw [lookup_forced]
  by_cases left : e.forceTls = "none"
  · simp [left, h, Vmess.lineTls?]
  · rw [if_neg fun both => left both.1, lookup_params_security (.inl (List.mem_cons_of_mem _ h)),
      securityParams_of_not_reality other]
    by_cases tls : i.stream.security = "tls"
    · simp [Stream.isTls, tls, left, Vmess.lineTls?, notSecurity]
    · simp [Stream.isTls, tls, left, Vmess.lineTls?, notSecurity]

/-- What the parameters of a query say of a stream whose security is not Reality, on the line for an
endpoint. -/
structure QueryTells (s : Stream) (e : Endpoint) (q : Params) : Prop where
  network : q.lookup "type" = some s.network
  security : q.lookup "security" = some (Vmess.lineSecurity s e)
  tls : ∀ name ∈ tlsNames,
    q.lookup name = (Vmess.lineTls? s e).bind fun t => t.linkParams.lookup name
  transport : ∀ name ∈ Transport.linkNames, q.lookup name = s.transportParams.lookup name

theorem queryTells_forced (other : i.stream.security ≠ "reality") :
    QueryTells i.stream e (forced e.forceTls (params p i c choice)) where
  network := lookup_forced_type
  security := lookup_forced_security other
  tls _ := lookup_forced_tls other
  transport _ := lookup_forced_transport

end Query

/-- What the fields of a description say of a stream, on the line for an endpoint. -/
structure FieldsTell (s : Stream) (e : Endpoint) (v : Fields) : Prop where
  network : v.lookup "net" = some (.string s.network)
  security : v.lookup "tls" = some (.string (Vmess.lineSecurity s e))
  tls : ∀ name ∈ ["alpn", "sni", "fp"], v.lookup name =
    (Vmess.lineTls? s e).bind fun t => (t.commonParams.lookup name).map .string
  permission : v.lookup "allowInsecure" =
    (Vmess.lineTls? s e).bind fun t => t.allowInsecure.map .bool
  type : v.lookup "type" = some (.string ((s.vmessFields.lookup "type").getD "none"))
  transport : ∀ name ∈ ["path", "host", "mode", "authority"],
    v.lookup name = (s.vmessFields.lookup name).map .string

theorem fieldsTell_description (i : Inbound) (c : Client) (e : Endpoint) (remark : String) :
    FieldsTell i.stream e (Vmess.description i c e remark) where
  network := Vmess.lookup_description_eq ..
  security := Vmess.lookup_description_eq ..
  tls name h := by
    simp only [List.mem_cons, List.not_mem_nil, or_false] at h
    rw [Vmess.lookup_description_eq]
    rcases h with rfl | rfl | rfl
    · simp only [Vmess.intended, Tls.lookup_commonParams]
      congr 1
      funext t
      by_cases empty : t.alpn = []
      · simp [empty]
      · simp [empty, Tls.alpnText]
    · simp [Vmess.intended, Tls.lookup_commonParams]
    · simp [Vmess.intended, Tls.lookup_commonParams]
  permission := Vmess.lookup_description_eq ..
  type := by
    rw [vmessFields_eq]
    exact Vmess.lookup_description_eq ..
  transport name h := by
    simp only [List.mem_cons, List.not_mem_nil, or_false] at h
    rw [Vmess.lookup_description_eq, vmessFields_eq]
    rcases h with rfl | rfl | rfl | rfl <;> rfl

theorem lookup_linkParams_common (t : Tls) {name : String} (h : name ∈ ["alpn", "sni", "fp"]) :
    t.linkParams.lookup name = t.commonParams.lookup name := by
  have apart : ∀ name ∈ ["alpn", "sni", "fp"], name ≠ "security" ∧ name ∉ ["allowInsecure"] := by
    decide
  obtain ⟨notSecurity, notPermission⟩ := apart name h
  rw [Tls.linkParams, List.lookup_append, lookup_cons_of_ne notSecurity,
    lookup_eq_none_of_sublist t.names_permission notPermission, Option.or_none]

theorem lookup_linkParams_allowInsecure (t : Tls) :
    t.linkParams.lookup "allowInsecure" =
      if t.allowInsecure = some true then some "1" else none := by
  have common : t.commonParams.lookup "allowInsecure" = none :=
    lookup_eq_none_of_sublist t.names_commonParams (by decide)
  rw [Tls.linkParams, List.lookup_append, lookup_cons_of_ne (by decide), common, Option.none_or]
  split <;> rfl

/-- Hosts and authorities stand under one name in both kinds of link. -/
theorem lookup_vmessFields_host (t : Transport) {name : String}
    (h : name ∈ ["host", "authority"]) : t.vmessFields.lookup name = t.linkParams.lookup name := by
  simp only [List.mem_cons, List.not_mem_nil, or_false] at h
  cases t with
  | tcp t =>
    by_cases http : t.headerType = "http"
    · rcases h with rfl | rfl <;>
        simp only [Transport.vmessFields, Tcp.vmessFields, Transport.linkParams, Tcp.linkParams,
          if_pos http] <;> rfl
    · rcases h with rfl | rfl <;>
        simp only [Transport.vmessFields, Tcp.vmessFields, Transport.linkParams, Tcp.linkParams,
          if_neg http] <;> rfl
  | kcp t => rcases h with rfl | rfl <;> rfl
  | grpc t =>
    rw [Transport.vmessFields, Grpc.vmessFields, Transport.linkParams, Grpc.linkParams]
    cases t.multiMode <;> rcases h with rfl | rfl <;> rfl
  | webSocket t | httpUpgrade t | xhttp t => rfl

section Agreement

variable {s : Stream} {e : Endpoint} {v : Fields} {q : Params}

/-- The TLS settings and the host are the same wherever either kind of link has them. -/
theorem bothSayIfAny_common (told : FieldsTell s e v) (asked : QueryTells s e q) {name : String}
    (h : name ∈ ["alpn", "sni", "fp", "host", "authority"]) : BothSayIfAny v name q name := by
  have parted : ∀ name ∈ ["alpn", "sni", "fp", "host", "authority"],
      (name ∈ ["alpn", "sni", "fp"] ∧ name ∈ tlsNames) ∨
        (name ∈ ["host", "authority"] ∧ name ∈ ["path", "host", "mode", "authority"] ∧
          name ∈ Transport.linkNames) := by decide
  rw [BothSayIfAny]
  rcases parted name h with ⟨secure, known⟩ | ⟨hosted, known, known'⟩
  · rw [told.tls name secure, asked.tls name known]
    cases Vmess.lineTls? s e with
    | none => rfl
    | some t => rw [Option.bind_some, Option.bind_some, lookup_linkParams_common t secure]
  · rw [told.transport name known, asked.transport name known']
    unfold Stream.vmessFields Stream.transportParams
    cases s.transport? with
    | none => rfl
    | some t =>
      rw [Option.map_some, Option.map_some, Option.getD_some, Option.getD_some,
        lookup_vmessFields_host t hosted]

theorem permission_iff (told : FieldsTell s e v) (asked : QueryTells s e q) :
    q.lookup "allowInsecure" = some "1" ↔ v.lookup "allowInsecure" = some (.bool true) := by
  rw [asked.tls _ (by decide), told.permission]
  cases Vmess.lineTls? s e with
  | none => simp
  | some t => simp [lookup_linkParams_allowInsecure]

/-- Plain TCP has a path and is dressed up in both kinds of link or in neither. -/
theorem tcp_agrees (told : FieldsTell s e v) (asked : QueryTells s e q)
    (network : s.network = "tcp") :
    BothSayIfAny v "path" q "path" ∧ EitherSays "http" v "type" q "headerType" := by
  have used : s.transport? = some (.tcp s.tcp) := by simp [Stream.transport?, network]
  rw [BothSayIfAny, EitherSays, told.type, told.transport _ (by decide),
    asked.transport _ (by decide), asked.transport _ (by decide), Stream.vmessFields,
    Stream.transportParams, used]
  by_cases http : s.tcp.headerType = "http"
  · simp [Transport.vmessFields, Transport.linkParams, Tcp.vmessFields, Tcp.linkParams, http,
      List.lookup_cons]
  · simp [Transport.vmessFields, Transport.linkParams, Tcp.vmessFields, Tcp.linkParams, http]

theorem kcp_agrees (told : FieldsTell s e v) (asked : QueryTells s e q)
    (network : s.network = "kcp") :
    BothSay v "type" q "headerType" ∧ BothSay v "path" q "seed" := by
  have used : s.transport? = some (.kcp s.kcp) := by simp [Stream.transport?, network]
  rw [BothSay, BothSay, told.type, told.transport _ (by decide), asked.transport _ (by decide),
    asked.transport _ (by decide), Stream.vmessFields, Stream.transportParams, used]
  exact ⟨⟨s.kcp.headerType, rfl, rfl⟩, ⟨s.kcp.seed, rfl, rfl⟩⟩

/-- Transports that start as an HTTP request say the same in both kinds of link. -/
theorem request_agrees (told : FieldsTell s e v) (asked : QueryTells s e q)
    (network : s.network ∈ ["ws", "httpupgrade", "xhttp"]) :
    BothSayIfAny v "path" q "path" ∧ BothSayIfAny v "mode" q "mode" := by
  have same : s.vmessFields = s.transportParams := by
    simp only [List.mem_cons, List.not_mem_nil, or_false] at network
    unfold Stream.vmessFields Stream.transportParams Stream.transport?
    rcases network with network | network | network <;> (rw [network]; rfl)
  rw [BothSayIfAny, BothSayIfAny, told.transport _ (by decide), told.transport _ (by decide),
    asked.transport _ (by decide), asked.transport _ (by decide), same]
  exact ⟨rfl, rfl⟩

theorem grpc_agrees (told : FieldsTell s e v) (asked : QueryTells s e q)
    (network : s.network = "grpc") :
    BothSay v "path" q "serviceName" ∧ EitherSays "multi" v "type" q "mode" := by
  have used : s.transport? = some (.grpc s.grpc) := by simp [Stream.transport?, network]
  rw [BothSay, EitherSays, told.type, told.transport _ (by decide), asked.transport _ (by decide),
    asked.transport _ (by decide), Stream.vmessFields, Stream.transportParams, used]
  refine ⟨⟨s.grpc.serviceName, rfl, rfl⟩, ?_⟩
  cases multi : s.grpc.multiMode with
  | true =>
    simp [Transport.vmessFields, Transport.linkParams, Grpc.vmessFields, Grpc.linkParams, multi,
      List.lookup_cons]
  | false =>
    simp [Transport.vmessFields, Transport.linkParams, Grpc.vmessFields, Grpc.linkParams, multi,
      List.lookup_cons]

theorem sameConfiguration (told : FieldsTell s e v) (asked : QueryTells s e q) :
    SameConfiguration s.network v q where
  network := ⟨_, told.network, asked.network⟩
  security := ⟨_, told.security, asked.security⟩
  common _ := bothSayIfAny_common told asked
  permission := permission_iff told asked
  tcp := tcp_agrees told asked
  kcp := kcp_agrees told asked
  request := request_agrees told asked
  grpc := grpc_agrees told asked

end Agreement

/-- A line of a URI link has some parameters in its query, none of them twice. It is put together
of the escaped parts of a URI with these parameters; and taking it apart gives these escaped parts
unless a sign that ends a host stands in the host itself. -/
structure HasQuery (urls : UrlLibrary) (line : List Char) (query : Params) : Prop where
  distinct : (query.map (·.1)).Nodup
  written : ∃ t u, line = UriText.text t ∧ UriText.Encodes urls t u ∧ u.query = query ∧
    ((∀ c ∈ t.host, Host.isDelimiter c = false) → UriText.read? line = some t)

/-- Taking apart what is put together of escaped parts gives these parts. -/
theorem UriText.Encodes.read?_text {urls : UrlLibrary} {t : UriText} {u : UriParts}
    (h : Encodes urls t u) (scheme : ':' ∉ u.scheme.toList) (query : u.query ≠ [])
    (host : ∀ c ∈ t.host, Host.isDelimiter c = false) : UriText.read? t.text = some t := by
  have user {d : Char} (sign : isCredentialChar d = false ∧ d ≠ '%' ∧ d.isAlphanum = false) :
      d ∉ Text.percentEncode isCredentialChar u.credential.toList :=
    Text.not_mem_percentEncode sign _
  have nonempty := Text.formEncodeAll_ne_nil query
  have read := UriText.read?_eq u.port u.remark scheme
    ⟨user (d := '#') (by decide), user (d := '?') (by decide)⟩ host
    ⟨Text.not_mem_formEncodeAll (by decide) u.query, nonempty⟩
  obtain ⟨scheme', userinfo, host', port, query', fragment⟩ := t
  obtain ⟨rfl, rfl, -, rfl, rfl, rfl⟩ := h
  rw [← read, UriText.text, UriParts.queryText, UriParts.remarkText]
  split <;> simp [nonempty]

theorem hasQuery_of_line {p : Protocol} {i : Inbound} {c : Client}
    {choice : Option Reality.Choice} {manner : Link.Manner} {e : Endpoint} {text : String}
    (lawful : manner.urls.Lawful) (uri : p ≠ .vmess) (h : line p i c choice manner e = .ok text) :
    HasQuery manner.urls text.toList (forced e.forceTls (params p i c choice)) := by
  obtain ⟨remark, -, -, rendered⟩ := line_eq_ok h
  have query := forced_params_ne_nil e.forceTls p i c choice
  obtain ⟨t, whole, encodes⟩ :=
    UriText.exists_encodes lawful (rendered uri) (scheme_plain p).2 query
  refine ⟨(names_forced e.forceTls _).nodup (nodup_params p i c choice), t, _, whole, encodes, rfl,
    fun host => ?_⟩
  rw [whole]
  exact encodes.read?_text (scheme_plain p).1 query host

/-- Behind a stream stand the same endpoints, whatever else differs. -/
theorem forceTls_targets {i j : Inbound} (stream : j.stream = i.stream)
    (address address' : String) :
    List.Forall₂ (fun e e' => e'.forceTls = e.forceTls) (targets i address)
      (targets j address') := by
  unfold targets
  rw [stream]
  split
  · exact .cons rfl .nil
  · exact List.forall₂_same.mpr fun _ _ => rfl

end Link

namespace Inbound

open Link

/-- A vmess link and a URI link to clients of one email over one stream tell them the same
configuration line by line, whatever endpoints there are in front, unless the security is
Reality. -/
theorem vmess_agrees_with_uri {i j : Inbound} {p : Protocol} {c d : Client}
    {manner manner' : Link.Manner} {address address' email text text' : String}
    {source source' after after' : Source} (lawful : manner'.urls.Lawful)
    (vmess : i.protocol? = some .vmess) (protocol : j.protocol? = some p) (uri : p ≠ .vmess)
    (stream : j.stream = i.stream)
    (other : i.stream.security ≠ "reality") (found : i.settings.find? email = some c)
    (found' : j.settings.find? email = some d)
    (h : i.link manner address email source = (.ok text, after))
    (h' : j.link manner' address' email source' = (.ok text', after')) :
    List.Forall₂
      (fun line line' => ∃ v q, Link.Vmess.Says line v ∧ HasQuery manner'.urls line' q ∧
        SameConfiguration i.stream.network v q)
      (Text.splitOn (· == '\n') text.toList) (Text.splitOn (· == '\n') text'.toList) := by
  obtain ⟨written, lines, rfl, -⟩ := link_eq_ok vmess found h
  obtain ⟨written', lines', rfl, -⟩ := link_eq_ok protocol found' h'
  rw [splitOn_lines (absurd rfl) lines, splitOn_lines (fun _ => lawful) lines',
    List.forall₂_map_left_iff, List.forall₂_map_right_iff]
  have first : List.Forall₂
      (fun e' text => ∃ e, e'.forceTls = e.forceTls ∧ line .vmess i c _ manner e = .ok text)
      (targets j address') written :=
    forall₂_of_common (fun e _ _ _ force wrote => ⟨e, force, wrote⟩)
      (forceTls_targets stream address address') (mapM_eq_ok_iff.mp lines)
  apply forall₂_of_common _ first (mapM_eq_ok_iff.mp lines')
  rintro e' - text text' ⟨e, force, wrote⟩ wrote'
  obtain ⟨remark, -, rendered, -⟩ := line_eq_ok wrote
  have asked (choice : Option Reality.Choice) :
      QueryTells i.stream e (forced e'.forceTls (params p j d choice)) := by
    rw [← stream] at other ⊢
    rw [force]
    exact queryTells_forced other
  exact ⟨_, _, Link.Vmess.says_of_render (rendered rfl), hasQuery_of_line lawful uri wrote',
    sameConfiguration (fieldsTell_description i c e remark) (asked _)⟩

/-- One stream with TLS behind two endpoints, of which the first turns it off, under a protocol. -/
def twinInbound (protocol : String) : Inbound :=
  { port := 443
    protocol
    settings := { clients := [{ email := "ada", id := "k1", flow := "vision" }] }
    stream :=
      { network := "grpc"
        security := "tls"
        grpc := { serviceName := "svc", multiMode := true }
        tls := { alpn := ["h2", "h3"], serverName := some "ex.org", allowInsecure := some true }
        endpoints :=
          [{ forceTls := "none", dest := "b.example", port := 80 },
            { dest := "c.example", port := 8443, remark := "cdn" }] } }

/-- The two lines of a vmess link tell the same as those of a vless link. -/
theorem twin_links_agree :
    ∃ text text',
      (twinInbound "vmess").link Link.plainManner "" "ada" (Source.ofWords [0]) =
        (.ok text, Source.ofWords [0]) ∧
      (twinInbound "vless").link Link.plainManner "" "ada" (Source.ofWords [0]) =
        (.ok text', Source.ofWords [0]) ∧
      List.Forall₂
        (fun line line' => ∃ v q, Link.Vmess.Says line v ∧ HasQuery Host.library line' q ∧
          SameConfiguration "grpc" v q)
        (Text.splitOn (· == '\n') text.toList) (Text.splitOn (· == '\n') text'.toList) := by
  have first : ∃ text, (twinInbound "vmess").link Link.plainManner "" "ada"
      (Source.ofWords [0]) = (.ok text, Source.ofWords [0]) := ⟨_, rfl⟩
  have second : ((twinInbound "vless").link Link.plainManner "" "ada" (Source.ofWords [0])).1 =
      .ok ("vless://k1@b.example:80?type=grpc&serviceName=svc&authority=&mode=multi" ++
        "&security=none#ada\n" ++
        "vless://k1@c.example:8443?type=grpc&serviceName=svc&authority=&mode=multi" ++
        "&security=tls&alpn=h2%2Ch3&sni=ex.org&allowInsecure=1#ada%20cdn") := by
    decide +kernel
  obtain ⟨text, written⟩ := first
  have written' : ∃ text', (twinInbound "vless").link Link.plainManner "" "ada"
      (Source.ofWords [0]) = (.ok text', Source.ofWords [0]) := ⟨_, Prod.ext second rfl⟩
  obtain ⟨text', written'⟩ := written'
  have agree := vmess_agrees_with_uri (i := twinInbound "vmess") (j := twinInbound "vless")
    (p := .vless) lawful_plainManner rfl rfl (by decide) rfl (by decide) rfl rfl written written'
  exact ⟨text, text', written, written', agree⟩

end Inbound
end ShareLinks
