import Mathlib.Data.Option.Basic
import ShareLinks.Proofs.Host.Library

/-!
# What a link depends on

A link says nothing of transports and securities that are not in use, of other clients, or of
fields that its protocol does not carry. Two inbounds that agree on everything else have the same
link to a client, fail in the same way, and draw the same.
-/

namespace ShareLinks

/-- Two clients agree on what links of a protocol say of them. -/
structure Client.AgreeFor (p : Protocol) (c d : Client) : Prop where
  id : p = .vmess ∨ p = .vless → c.id = d.id
  password : p = .trojan ∨ p = .shadowsocks → c.password = d.password
  security : p = .vmess → c.security = d.security
  flow : p = .vless ∨ p = .trojan → c.flow = d.flow

/-- Two settings agree on what links of a protocol say of them. The password of the inbound only
goes with ciphers whose name starts with `2`. -/
structure Settings.AgreeFor (p : Protocol) (s t : Settings) : Prop where
  encryption : p = .vless → s.encryption = t.encryption
  method : p = .shadowsocks → s.method = t.method
  password : p = .shadowsocks → s.method.toList.head? = some '2' → s.password = t.password

/-- Two streams agree on what is in use, as far as links of a protocol carry it. -/
structure Stream.AgreeFor (p : Protocol) (s t : Stream) : Prop where
  network : s.network = t.network
  security : s.security = t.security
  endpoints : s.endpoints = t.endpoints
  transport : s.transport? = t.transport?
  tls : s.security = "tls" → s.tls = t.tls
  reality : s.security = "reality" → p = .vless ∨ p = .trojan → s.reality = t.reality

/-- Two inbounds agree on what links to the client with an email depend on. Either both have such
a client or none has; of several in one inbound the first counts. -/
structure Inbound.AgreeFor (email : String) (i j : Inbound) : Prop where
  protocol : i.protocol = j.protocol
  port : i.port = j.port
  remark : i.remark = j.remark
  stats : i.stats = j.stats
  stream : ∀ p, i.protocol? = some p → i.stream.AgreeFor p j.stream
  settings : ∀ p, i.protocol? = some p → i.settings.AgreeFor p j.settings
  client : ∀ p, i.protocol? = some p →
    Option.Rel (Client.AgreeFor p) (i.settings.find? email) (j.settings.find? email)

namespace Stream.AgreeFor

variable {p : Protocol} {s t : Stream}

theorem isTls (h : s.AgreeFor p t) : s.isTls = t.isTls := by
  rw [Stream.isTls, h.security, Stream.isTls]

theorem isReality (h : s.AgreeFor p t) : s.isReality = t.isReality := by
  rw [Stream.isReality, h.security, Stream.isReality]

theorem transportParams (h : s.AgreeFor p t) : s.transportParams = t.transportParams := by
  rw [Stream.transportParams, h.transport, Stream.transportParams]

theorem vmessFields (h : s.AgreeFor p t) : s.vmessFields = t.vmessFields := by
  rw [Stream.vmessFields, h.transport, Stream.vmessFields]

theorem tls_of_isTls (h : s.AgreeFor p t) (uses : t.isTls = true) : s.tls = t.tls := by
  apply h.tls
  rw [h.security]
  exact beq_iff_eq.mp uses

theorem reality_of_carries (h : s.AgreeFor p t)
    (uses : (t.isReality && Link.carriesReality p) = true) : s.reality = t.reality := by
  obtain ⟨reality, carries⟩ := Bool.and_eq_true_iff.mp uses
  apply h.reality
  · rw [h.security]
    exact beq_iff_eq.mp reality
  · simpa [Link.carriesReality] using carries

theorem choose (h : s.AgreeFor p t) (source : Source) :
    Link.choose p s source = Link.choose p t source := by
  unfold Link.choose
  rw [h.isReality]
  split
  · next uses => rw [h.reality_of_carries uses]
  · rfl

theorem securityParams (h : s.AgreeFor p t) (choice : Option Reality.Choice) :
    Link.securityParams p s choice = Link.securityParams p t choice := by
  unfold Link.securityParams
  rw [h.isTls, h.isReality]
  split
  · next uses => rw [h.tls_of_isTls uses]
  split
  · next uses => rw [h.reality_of_carries uses]
  · rfl

theorem carriesFlow (h : s.AgreeFor p t) : Link.carriesFlow p s = Link.carriesFlow p t := by
  simp only [Link.carriesFlow, h.network, h.isTls, h.isReality]

end Stream.AgreeFor

namespace Link

variable {p : Protocol} {i j : Inbound} {c d : Client}

theorem flowParams_eq {s t : Stream} (stream : s.AgreeFor p t) (client : c.AgreeFor p d) :
    flowParams p s c = flowParams p t d := by
  unfold flowParams
  rw [stream.carriesFlow]
  split
  · next carries =>
    rw [client.flow]
    cases p with
    | vless => exact .inl rfl
    | trojan => exact .inr rfl
    | vmess => simp [carriesFlow] at carries
    | shadowsocks => simp [carriesFlow] at carries
  · rfl

theorem encryptionParams_eq {s t : Settings} (h : s.AgreeFor p t) :
    encryptionParams p s = encryptionParams p t := by
  unfold encryptionParams
  split
  · next vless => rw [h.encryption vless]
  · rfl

theorem params_eq (stream : i.stream.AgreeFor p j.stream)
    (settings : i.settings.AgreeFor p j.settings) (client : c.AgreeFor p d)
    (choice : Option Reality.Choice) : params p i c choice = params p j d choice := by
  rw [params, stream.network, encryptionParams_eq settings, stream.transportParams,
    stream.securityParams, flowParams_eq stream client, params]

theorem shadowsocksSecret_eq {s t : Settings} (settings : s.AgreeFor .shadowsocks t)
    (client : c.AgreeFor .shadowsocks d) : shadowsocksSecret s c = shadowsocksSecret t d := by
  have password := client.password (.inr rfl)
  have method := settings.method rfl
  unfold shadowsocksSecret
  rw [password, ← method]
  split
  · next two => rw [settings.password rfl two]
  · rfl

theorem credential_eq {s t : Settings} (uri : p ≠ .vmess) (settings : s.AgreeFor p t)
    (client : c.AgreeFor p d) : credential p s c = credential p t d := by
  cases p with
  | vmess => exact absurd rfl uri
  | vless => exact client.id (.inr rfl)
  | trojan => exact client.password (.inl rfl)
  | shadowsocks => rw [credential, shadowsocksSecret_eq settings client, credential]

theorem description_eq (stream : i.stream.AgreeFor .vmess j.stream)
    (client : c.AgreeFor .vmess d) (e : Endpoint) (remark : String) :
    Vmess.description i c e remark = Vmess.description j d e remark := by
  have name : Vmess.securityName i.stream = Vmess.securityName j.stream := by
    rw [Vmess.securityName, stream.isTls, stream.isReality, stream.security, Vmess.securityName]
  have tls : Vmess.tlsFields i.stream e.forceTls = Vmess.tlsFields j.stream e.forceTls := by
    unfold Vmess.tlsFields
    rw [stream.isTls]
    split
    · next tells => rw [stream.tls_of_isTls (Bool.and_eq_true_iff.mp tells).1]
    · rfl
  rw [Vmess.description, Vmess.assignments, stream.network, stream.vmessFields, name, tls,
    client.id (.inl rfl), client.security rfl, Vmess.description, Vmess.assignments]

theorem line_eq {email : String} (agree : i.AgreeFor email j) (protocol : i.protocol? = some p)
    (client : c.AgreeFor p d) (same : c.email = d.email) (choice : Option Reality.Choice)
    (manner : Link.Manner) (e : Endpoint) :
    line p i c choice manner e = line p j d choice manner e := by
  have stream := agree.stream p protocol
  have settings := agree.settings p protocol
  have remark : i.remarkText manner c.email e.remark = j.remarkText manner d.email e.remark := by
    rw [Inbound.remarkText, agree.remark, agree.stats, same, Inbound.remarkText]
  unfold line
  rw [remark]
  refine bind_congr fun text => ?_
  cases p with
  | vmess => simp only [description_eq stream client]
  | vless | trojan | shadowsocks =>
    simp only [uriParts, credential_eq (by decide) settings client,
      params_eq stream settings client]

theorem targets_eq {email : String} (agree : i.AgreeFor email j) (protocol : i.protocol? = some p)
    (address : String) : targets i address = targets j address := by
  rw [targets, (agree.stream p protocol).endpoints, agree.port, targets]

end Link

namespace Inbound

variable {i j : Inbound} {email : String} {p : Protocol}

/-- Either neither inbound has a client with the email, or their first ones agree. -/
theorem AgreeFor.clients (agree : i.AgreeFor email j) (protocol : i.protocol? = some p) :
    (i.settings.find? email = none ∧ j.settings.find? email = none) ∨
      ∃ c d, i.settings.find? email = some c ∧ j.settings.find? email = some d ∧
        c.AgreeFor p d ∧ c.email = d.email := by
  have clients := agree.client p protocol
  generalize first : i.settings.find? email = x at clients
  generalize second : j.settings.find? email = y at clients
  cases clients with
  | none => exact .inl ⟨rfl, rfl⟩
  | some client =>
    have same := (Settings.email_of_find? first).trans (Settings.email_of_find? second).symm
    exact .inr ⟨_, _, rfl, rfl, client, same⟩

/-- Inbounds that agree on what a link depends on have the same link, or fail in the same way, and
leave the random source alike. -/
theorem link_eq_of_agree (agree : i.AgreeFor email j) (manner : Link.Manner) (address : String)
    (source : Source) :
    i.link manner address email source = j.link manner address email source := by
  have known : i.protocol? = j.protocol? := by rw [protocol?, agree.protocol, protocol?]
  unfold link
  rw [← known]
  cases protocol : i.protocol? with
  | none => rfl
  | some p =>
    dsimp only
    unfold linkOf
    rw [agree.protocol]
    split
    · rcases agree.clients protocol with ⟨first, second⟩ | ⟨c, d, first, second, client, same⟩
      · rw [first, second]
      · have lines (choice : Option Reality.Choice) :
            Link.lines p i c choice manner address = Link.lines p j d choice manner address := by
          rw [Link.lines, Link.targets_eq agree protocol,
            funext (Link.line_eq agree protocol client same choice manner), Link.lines]
        simp only [first, second, lines, (agree.stream p protocol).choose]
    · rfl

/-- An inbound with two clients and settings for what it does not use. -/
def busyInbound : Inbound :=
  { port := 443
    protocol := "vless"
    settings :=
      { clients := [{ email := "bo", id := "k2" }, { email := "ada", id := "k1", flow := "f" }]
        method := "2022", password := "p" }
    stream :=
      { network := "tcp"
        security := "reality"
        webSocket := { path := "/ws" }
        tls := { serverName := some "tls.example" }
        reality := { present := true, serverNames := ["ex.org"], shortIds := ["6b"] } } }

/-- The inbound with what it uses, for one of the clients alone. -/
def bareInbound : Inbound :=
  { port := 443
    protocol := "vless"
    settings := { clients := [{ email := "ada", id := "k1", flow := "f", password := "q" }] }
    stream :=
      { network := "tcp"
        security := "reality"
        reality := { present := true, serverNames := ["ex.org"], shortIds := ["6b"] } } }

theorem busy_link_eq_bare_link :
    busyInbound.AgreeFor "ada" bareInbound ∧
      busyInbound.settings.clients ≠ bareInbound.settings.clients ∧
      busyInbound.stream ≠ bareInbound.stream ∧
      busyInbound.link { Link.plainManner with showInfo := true } "a.example" "ada"
          (Source.ofWords [7]) =
        bareInbound.link { Link.plainManner with showInfo := true } "a.example" "ada"
          (Source.ofWords [7]) := by
  have vless : ∀ p, busyInbound.protocol? = some p → p = .vless := by
    intro p protocol
    exact (Option.some.inj protocol).symm
  have agree : busyInbound.AgreeFor "ada" bareInbound := by
    refine ⟨rfl, rfl, rfl, rfl, fun p protocol => ?_, fun p protocol => ?_, fun p protocol => ?_⟩
    · exact ⟨rfl, rfl, rfl, rfl, fun tls => absurd tls (by decide), fun _ _ => rfl⟩
    · rw [vless p protocol]
      exact ⟨fun _ => rfl, fun other => absurd other (by decide),
        fun other => absurd other (by decide)⟩
    · rw [vless p protocol]
      exact .some ⟨fun _ => rfl, fun other => absurd other (by decide),
        fun other => absurd other (by decide), fun _ => rfl⟩
  exact ⟨agree, by decide, by decide, link_eq_of_agree agree _ _ _⟩

end Inbound
end ShareLinks
