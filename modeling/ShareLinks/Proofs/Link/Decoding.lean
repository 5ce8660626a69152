import ShareLinks.Proofs.Host.Library
import ShareLinks.Proofs.Link.Layout

/-!
# What URI links say

Each line of a URI link, taken apart and decoded, gives back the target that it was written for,
what the client signs in with, the parameters in their order, and the remark.
-/

namespace ShareLinks.Link

/-- A text in base64. -/
def base64 (text : String) : String :=
  String.ofList (Text.Base64.encode (Text.Utf8.encode text.toList))

/-- What a client signs in with, under the scheme of the protocol. Ciphers whose name starts with
`2` are shared, so the password of the inbound stands in front of that of the client. -/
inductive SignsInAs (s : Settings) (c : Client) : Protocol → String → String → Prop
  | vless : SignsInAs s c .vless "vless" c.id
  | trojan : SignsInAs s c .trojan "trojan" c.password
  | shared (cipher : s.method.toList.head? = some '2') : SignsInAs s c .shadowsocks "ss"
      (base64 (s.method ++ ":" ++ s.password ++ ":" ++ c.password))
  | own (cipher : s.method.toList.head? ≠ some '2') : SignsInAs s c .shadowsocks "ss"
      (base64 (s.method ++ ":" ++ c.password))

/-- What is left of parameters behind an endpoint. One with a security of its own replaces theirs,
and one without any leaves out what only goes with TLS. -/
def throughEndpoint (force : String) : Params → Params
  | [] => []
  | (name, value) :: ps =>
    if force = "none" ∧ name ∈ ["alpn", "sni", "fp", "allowInsecure"] then throughEndpoint force ps
    else
      (name, if name = "security" ∧ force ≠ "same" then force else value) ::
        throughEndpoint force ps

/-- A line denotes an endpoint: taken apart and decoded it gives the credential of the client, the
server, the query as the endpoint passes it on, and the remark. -/
def DenotesEndpoint (p : Protocol) (i : Inbound) (c : Client) (manner : Manner) (email : String)
    (source : Source) (e : Endpoint) (line : List Char) : Prop :=
  ∃ t remark scheme credential, UriText.read? line = some t ∧
    i.remarkText manner email e.remark = .ok remark ∧
    SignsInAs i.settings c p scheme credential ∧
    t.Denotes
      { scheme
        credential
        host := e.dest
        port := e.port
        query := throughEndpoint e.forceTls (layout p i c source)
        remark }

theorem signsInAs_credential {p : Protocol} (uri : p ≠ .vmess) (s : Settings) (c : Client) :
    SignsInAs s c p (scheme p) (credential p s c) := by
  cases p with
  | vmess => exact absurd rfl uri
  | vless => exact .vless
  | trojan => exact .trojan
  | shadowsocks =>
    unfold credential
    dsimp only
    unfold shadowsocksSecret
    split
    · next cipher => exact .shared cipher
    · next cipher => exact .own cipher

theorem forced_cons (force name value : String) (ps : Params) :
    forced force ((name, value) :: ps) =
      if force = "none" ∧ name ∈ tlsNames then forced force ps
      else (name, if name = "security" ∧ force ≠ "same" then force else value) ::
        forced force ps := by
  unfold forced
  by_cases none : force = "none"
  · by_cases tls : name ∈ tlsNames
    · simp [none, tls]
    · simp [none, tls]
  · by_cases same : force = "same"
    · simp [same]
    · simp [none, same]

theorem forced_eq_throughEndpoint (force : String) (ps : Params) :
    forced force ps = throughEndpoint force ps := by
  induction ps with
  | nil => simp [forced, throughEndpoint]
  | cons field ps ih =>
    rw [forced_cons, throughEndpoint, ih]
    rfl

/-- Every line of a URI link denotes its target. -/
theorem uri_lines_denote_targets {p : Protocol} {i : Inbound} {c : Client}
    {manner : Link.Manner} {address email text : String} {source after : Source}
    (lawful : manner.urls.Lawful) (uri : p = .vless ∨ p = .trojan ∨ p = .shadowsocks)
    (protocol : i.protocol? = some p) (found : i.settings.find? email = some c)
    (front : i.stream.endpoints = [] → Host.IsPlainHost address)
    (behind : ∀ e ∈ i.stream.endpoints, Host.IsPlainHost e.dest)
    (h : i.link manner address email source = (.ok text, after)) :
    ForEachTarget i address (DenotesEndpoint p i c manner email source)
      (Text.splitOn (· == '\n') text.toList) := by
  obtain ⟨written, lines, rfl, -⟩ := Inbound.link_eq_ok protocol found h
  have notVmess : p ≠ .vmess := by
    rintro rfl
    simp at uri
  have email_eq : c.email = email := by
    have := List.find?_some found
    simpa using this
  have plain : ∀ e ∈ targets i address, Host.IsPlainHost e.dest := by
    unfold targets
    split
    · next none => simpa using front (List.isEmpty_iff.mp none)
    · exact behind
  obtain ⟨length, steps⟩ := List.forall₂_iff_zip.mp (mapM_eq_ok_iff.mp lines)
  rw [splitOn_lines (fun _ => lawful) lines]
  refine forEachTarget_of_targets (List.forall₂_map_right_iff.mpr ?_)
  refine List.forall₂_iff_zip.mpr ⟨length, fun {e line} both => ?_⟩
  obtain ⟨remark, remarked, -, rendered⟩ := line_eq_ok (steps both)
  obtain ⟨t, read, denotes⟩ := denotes_of_render lawful (rendered notVmess) (scheme_plain p).2
    (scheme_plain p).1 (forced_params_ne_nil _ _ _ _ _) (plain e (List.of_mem_zip both).1)
  rw [uriParts, forced_eq_throughEndpoint, params_eq_layout] at denotes
  rw [email_eq] at remarked
  exact ⟨t, remark, scheme p, credential p i.settings c, read, remarked,
    signsInAs_credential notVmess _ _, denotes⟩

/-- An inbound with one client, whose email, id and password all have reserved signs in them. -/
def reservedInbound : Inbound :=
  { port := 443
    protocol := "vless"
    settings := { clients := [{ email := "a#b", id := "k@1", password := "p w" }] }
    stream := { network := "tcp" } }

/-- The same for trojan, with TLS, behind an endpoint that has none. -/
def reservedTrojan : Inbound :=
  { reservedInbound with
    protocol := "trojan"
    stream :=
      { network := "ws"
        security := "tls"
        webSocket := { path := "/a b" }
        tls := { serverName := some "s.example" }
        endpoints := [{ forceTls := "none", dest := "2001:DB8::1", port := -1, remark := "eu" }] } }

/-- The same for shadowsocks, with a cipher that takes both passwords. -/
def reservedShadowsocks : Inbound :=
  { reservedInbound with
    protocol := "shadowsocks"
    settings := { reservedInbound.settings with method := "2022", password := "q" } }

/-- The link to the client is one line, which denotes some parts. -/
def LinkDenotes (i : Inbound) (text : String) (u : UriParts) : Prop :=
  ∃ after t, i.link plainManner "EX.org" "a#b" (Source.ofWords [0]) = (.ok text, after) ∧
    UriText.read? text.toList = some t ∧ t.Denotes u

/-- The links of the three protocols, and the parts that they denote. -/
theorem reserved_links_denote_parts :
    LinkDenotes reservedInbound "vless://k%401@ex.org:443?type=tcp&security=none#a%23b"
      { scheme := "vless", credential := "k@1", host := "EX.org", port := 443,
        query := [("type", "tcp"), ("security", "none")], remark := "a#b" } ∧
    LinkDenotes reservedTrojan
      "trojan://p%20w@[2001:DB8::1]:-1?type=ws&path=%2Fa+b&host=&security=none#a%23b%20eu"
      { scheme := "trojan", credential := "p w", host := "2001:DB8::1", port := -1,
        query := [("type", "ws"), ("path", "/a b"), ("host", ""), ("security", "none")],
        remark := "a#b eu" } ∧
    LinkDenotes reservedShadowsocks
      "ss://MjAyMjpxOnAgdw==@ex.org:443?type=tcp&security=none#a%23b"
      { scheme := "ss", credential := base64 "2022:q:p w", host := "EX.org", port := 443,
        query := [("type", "tcp"), ("security", "none")], remark := "a#b" } := by
  have written (i : Inbound) (text : String)
      (h : (i.link plainManner "EX.org" "a#b" (Source.ofWords [0])).1 = .ok text) :
      ∃ after, i.link plainManner "EX.org" "a#b" (Source.ofWords [0]) = (.ok text, after) :=
    ⟨_, Prod.ext h rfl⟩
  have address : Host.IsPlainHost "EX.org" := by decide
  refine ⟨?_, ?_, ?_⟩
  · obtain ⟨after, vless⟩ := written reservedInbound
      "vless://k%401@ex.org:443?type=tcp&security=none#a%23b" (by decide +kernel)
    obtain ⟨line, alone, t, remark, scheme, credential, read, remarked, signs, denotes⟩ :=
      (uri_lines_denote_targets lawful_plainManner (.inl rfl) rfl rfl (fun _ => address)
        (by simp [reservedInbound]) vless).1 rfl
    obtain rfl := List.cons.inj alone |>.1
    cases remarked
    cases signs
    exact ⟨after, t, vless, read, denotes⟩
  · obtain ⟨after, trojan⟩ := written reservedTrojan
      "trojan://p%20w@[2001:DB8::1]:-1?type=ws&path=%2Fa+b&host=&security=none#a%23b%20eu"
      (by decide +kernel)
    obtain ⟨line, rest, ⟨t, remark, scheme, credential, read, remarked, signs, denotes⟩, -,
        alone⟩ :=
      List.forall₂_cons_left_iff.mp ((uri_lines_denote_targets lawful_plainManner
        (.inr (.inl rfl)) rfl rfl (fun _ => address) (by decide) trojan).2 (by decide))
    obtain rfl := List.cons.inj alone |>.1
    cases remarked
    cases signs
    exact ⟨after, t, trojan, read, denotes⟩
  · obtain ⟨after, shadowsocks⟩ := written reservedShadowsocks
      "ss://MjAyMjpxOnAgdw==@ex.org:443?type=tcp&security=none#a%23b" (by decide +kernel)
    obtain ⟨line, alone, t, remark, scheme, credential, read, remarked, signs, denotes⟩ :=
      (uri_lines_denote_targets lawful_plainManner (.inr (.inr rfl)) rfl rfl (fun _ => address)
        (by simp [reservedShadowsocks, reservedInbound]) shadowsocks).1 rfl
    obtain rfl := List.cons.inj alone |>.1
    cases remarked
    cases signs with
    | shared => exact ⟨after, t, shadowsocks, read, denotes⟩
    | own cipher => exact absurd rfl cipher

end ShareLinks.Link
