import ShareLinks.Proofs.Host.Library
import ShareLinks.Proofs.Link.Parameters
import ShareLinks.Proofs.Source

/-!
# What randomness reaches in a link

Only Reality settings draw, once for all lines of a link, and what is drawn only goes into the
values of three parameters. Two links of an inbound to one client, written with different random
sources, are the same line for line but for these values.
-/

namespace ShareLinks

/-- Links of a protocol over a stream draw: they carry Reality settings, and there are some. -/
def Stream.DrawsFor (s : Stream) (p : Protocol) : Prop :=
  s.security = "reality" ∧ s.reality.present = true ∧ (p = .vless ∨ p = .trojan)

namespace Link

/-- The parameters whose values are drawn. -/
def drawnNames : List String :=
  ["sni", "sid", "spx"]

/-- Parameters of the same names in the same order, with the same values where none is drawn. -/
def SameButDrawn (a b : Params) : Prop :=
  List.Forall₂ (fun x y => x.1 = y.1 ∧ (x.1 ∉ drawnNames → x.2 = y.2)) a b

namespace SameButDrawn

variable {a b a' b' : Params}

theorem refl (a : Params) : SameButDrawn a a := by
  apply List.forall₂_same.mpr
  exact fun _ _ => ⟨rfl, fun _ => rfl⟩

theorem append (h : SameButDrawn a b) (h' : SameButDrawn a' b') :
    SameButDrawn (a ++ a') (b ++ b') :=
  List.rel_append h h'

theorem filter (h : SameButDrawn a b) (keep : String → Bool) :
    SameButDrawn (a.filter fun field => keep field.1) (b.filter fun field => keep field.1) := by
  apply List.rel_filter _ h
  intro x y same
  dsimp only
  rw [same.1]

/-- A security put in front replaces the value on both sides. -/
theorem forced (h : SameButDrawn a b) (force : String) :
    SameButDrawn (forced force a) (forced force b) := by
  have replaced {a b : Params} (h : SameButDrawn a b) :
      SameButDrawn (a.map fun field => (field.1, if field.1 = "security" then force else field.2))
        (b.map fun field => (field.1, if field.1 = "security" then force else field.2)) := by
    apply List.forall₂_map_left_iff.mpr
    apply List.forall₂_map_right_iff.mpr
    apply h.imp
    intro x y same
    refine ⟨same.1, fun kept => ?_⟩
    dsimp only
    rw [same.1, same.2 kept]
  have filtered := h.filter fun name => !tlsNames.contains name
  unfold Link.forced
  dsimp only
  split
  · split
    · exact filtered
    · exact h
  · split
    · exact replaced filtered
    · exact replaced h

end SameButDrawn

theorem sameButDrawn_optionalParam {name : String} (drawn : name ∈ drawnNames)
    {v w : Option String} (both : v.isSome = w.isSome) :
    SameButDrawn (optionalParam name v) (optionalParam name w) := by
  cases v with
  | none =>
    obtain rfl : w = none := by simpa using both.symm
    exact .refl _
  | some v =>
    obtain ⟨w, rfl⟩ := Option.isSome_iff_exists.mp both.symm
    exact .cons ⟨rfl, fun kept => absurd drawn kept⟩ .nil

theorem sameButDrawn_fields {r : Reality} {choice choice' : Reality.Choice}
    (h : choice.IsFrom r) (h' : choice'.IsFrom r) :
    SameButDrawn (r.fields choice) (r.fields choice') := by
  have serverName : SameButDrawn (optionalParam "sni" choice.serverName)
      (optionalParam "sni" choice'.serverName) :=
    sameButDrawn_optionalParam (by decide) (h.serverName_isSome.trans h'.serverName_isSome.symm)
  have shortId : SameButDrawn (optionalParam "sid" choice.shortId)
      (optionalParam "sid" choice'.shortId) :=
    sameButDrawn_optionalParam (by decide) (h.shortId_isSome.trans h'.shortId_isSome.symm)
  have spiderPath : SameButDrawn [("spx", choice.spiderPath)] [("spx", choice'.spiderPath)] :=
    .cons ⟨rfl, fun kept => absurd (by simp [drawnNames]) kept⟩ .nil
  exact ((((serverName.append (.refl _)).append shortId).append (.refl _)).append (.refl _)).append
    spiderPath

theorem carriesReality_of_drawsFor {s : Stream} {p : Protocol} (draws : s.DrawsFor p) :
    (s.isReality && carriesReality p) = true := by
  obtain ⟨security, -, carries⟩ := draws
  apply Bool.and_eq_true_iff.mpr
  constructor
  · exact beq_iff_eq.mpr security
  · rcases carries with rfl | rfl
    · rfl
    · rfl

theorem securityParams_of_drawsFor {s : Stream} {p : Protocol} (draws : s.DrawsFor p)
    (choice : Reality.Choice) :
    securityParams p s (some choice) = ("security", "reality") :: s.reality.fields choice := by
  have notTls : ¬ s.isTls = true := by simp [Stream.isTls, draws.1]
  rw [securityParams, if_neg notTls, if_pos (carriesReality_of_drawsFor draws), Reality.linkParams]
  rfl

theorem sameButDrawn_params {p : Protocol} {i : Inbound} (draws : i.stream.DrawsFor p) (c : Client)
    {choice choice' : Reality.Choice} (h : choice.IsFrom i.stream.reality)
    (h' : choice'.IsFrom i.stream.reality) :
    SameButDrawn (params p i c (some choice)) (params p i c (some choice')) := by
  have security : SameButDrawn (securityParams p i.stream (some choice))
      (securityParams p i.stream (some choice')) := by
    rw [securityParams_of_drawsFor draws, securityParams_of_drawsFor draws]
    exact .cons ⟨rfl, fun _ => rfl⟩ (sameButDrawn_fields h h')
  exact ((SameButDrawn.refl _).append security).append (.refl _)

theorem mem_params_drawn {p : Protocol} {i : Inbound} (draws : i.stream.DrawsFor p) (c : Client)
    (choice : Reality.Choice) {name : String} (drawn : name ∈ drawnNames) (value : String) :
    (name, value) ∈ params p i c (some choice) ↔
      (name, value) ∈ i.stream.reality.fields choice := by
  have encryption : (name, value) ∉ encryptionParams p i.settings := by
    unfold encryptionParams
    split
    · intro h
      obtain ⟨_, -, same⟩ := List.mem_map.mp h
      cases same
      exact absurd drawn (by decide)
    · exact List.not_mem_nil
  have transport : (name, value) ∉ i.stream.transportParams := by
    intro h
    have known := i.stream.names_transportParams.subset (List.mem_map_of_mem h)
    have apart : ∀ name ∈ drawnNames, name ∉ Transport.linkNames := by decide
    exact apart name drawn known
  have flow : (name, value) ∉ flowParams p i.stream c := by
    unfold flowParams nonemptyParam
    intro h
    split at h
    · split at h
      · cases h
      · cases List.mem_singleton.mp h
        exact absurd drawn (by decide)
    · cases h
  have type : (name, value) ≠ ("type", i.stream.network) := by
    rintro same
    cases same
    exact absurd drawn (by decide)
  have security : (name, value) ≠ ("security", "reality") := by
    rintro same
    cases same
    exact absurd drawn (by decide)
  rw [params, securityParams_of_drawsFor draws]
  simp only [List.mem_append, List.mem_cons, type, encryption, transport, security, flow, false_or,
    or_false]

/-- What an endpoint keeps of parameters other than the security keeps its value. -/
theorem mem_forced {force name value : String} {ps : Params} (other : name ≠ "security") :
    (name, value) ∈ forced force ps ↔
      (name, value) ∈ ps ∧ (force = "none" → name ∉ tlsNames) := by
  have kept : (name, value) ∈ (if force = "none" then ps.filter fun field =>
      !tlsNames.contains field.1 else ps) ↔
        (name, value) ∈ ps ∧ (force = "none" → name ∉ tlsNames) := by
    split
    · next none => simp [none]
    · next some => simp [some]
  rw [← kept]
  unfold forced
  dsimp only
  split
  · rfl
  · constructor
    · intro h
      obtain ⟨⟨name', value'⟩, h, same⟩ := List.mem_map.mp h
      cases same
      simpa [if_neg other] using h
    · intro h
      exact List.mem_map.mpr ⟨_, h, by simp [other]⟩

namespace UriText

/-- The text of a URI link that was taken apart. -/
def text (t : UriText) : List Char :=
  t.scheme ++ ':' :: '/' :: '/' :: (t.userinfo ++ '@' :: (t.host ++ ':' :: t.port ++
    (t.query.map ('?' :: ·)).getD [] ++ (t.fragment.map ('#' :: ·)).getD []))

/-- The named values in the query, decoded. -/
def pairs (t : UriText) : List (List Char × List Char) :=
  (t.query.map Text.formDecodeAll).getD []

/-- The parts of a URI link are those of a link before they were escaped, with the host as it is
written in a URL. -/
structure Encodes (urls : UrlLibrary) (t : UriText) (u : UriParts) : Prop where
  scheme : t.scheme = u.scheme.toList
  userinfo : t.userinfo = Text.percentEncode isCredentialChar u.credential.toList
  server : ∃ url, urls.make u.scheme u.host u.port u.query = .ok url ∧
    url.server = t.host ++ ':' :: t.port
  port : t.port = integerText u.port
  query : t.query = some (Text.formEncodeAll u.query)
  fragment : t.fragment =
    if u.remark.isEmpty then none else some (Text.percentEncode isRemarkChar u.remark.toList)

/-- Two URI links are the same but for values that are drawn. -/
structure SameButDrawn (t t' : UriText) : Prop where
  scheme : t.scheme = t'.scheme
  userinfo : t.userinfo = t'.userinfo
  host : t.host = t'.host
  port : t.port = t'.port
  fragment : t.fragment = t'.fragment
  query : List.Forall₂
    (fun x y => x.1 = y.1 ∧ (x.1 ∉ drawnNames.map String.toList → x.2 = y.2)) t.pairs t'.pairs

/-- Under the names of drawn parameters stand some drawn values, and no others. The server name is
left out where an endpoint takes the security away. -/
structure Carries (t : UriText) (choice : Reality.Choice) : Prop where
  serverName : ∀ value, ("sni".toList, value) ∈ t.pairs →
    choice.serverName.map String.toList = some value
  shortId : ∀ value, ("sid".toList, value) ∈ t.pairs ↔
    choice.shortId.map String.toList = some value
  spiderPath : ∀ value, ("spx".toList, value) ∈ t.pairs ↔ value = choice.spiderPath.toList

theorem exists_encodes {urls : UrlLibrary} (lawful : urls.Lawful) {u : UriParts} {text : String}
    (h : u.render urls = .ok text) (known : u.scheme ∉ UrlLibrary.schemesWithPort)
    (query : u.query ≠ []) : ∃ t : UriText, text.toList = t.text ∧ Encodes urls t u := by
  obtain ⟨url, made, whole⟩ := render_eq_ok h
  obtain ⟨written, server⟩ := lawful.server
  refine ⟨⟨_, _, written u.host, _, _, _⟩, ?_, rfl, rfl, ⟨url, made, server known made⟩, rfl, rfl,
    rfl⟩
  have nonempty : (Text.formEncodeAll u.query).isEmpty = false := by
    simpa using Text.formEncodeAll_ne_nil query
  have remark : UriParts.remarkText u.remark =
      ((if u.remark.isEmpty then none
        else some (Text.percentEncode isRemarkChar u.remark.toList)).map ('#' :: ·)).getD [] := by
    unfold UriParts.remarkText
    split <;> rfl
  rw [whole, remark, server known made, lawful.query made, UriParts.queryText, nonempty]
  rfl

variable {urls : UrlLibrary} {t t' : UriText} {u : UriParts}

theorem Encodes.pairs_eq (h : Encodes urls t u) :
    t.pairs = u.query.map fun (name, value) => (name.toList, value.toList) := by
  rw [pairs, h.query, Option.map_some, Option.getD_some, Text.formDecodeAll_formEncodeAll]

theorem Encodes.mem_pairs (h : Encodes urls t u) (name : String) (value : List Char) :
    (name.toList, value) ∈ t.pairs ↔ ∃ v, (name, v) ∈ u.query ∧ v.toList = value := by
  rw [h.pairs_eq, List.mem_map]
  constructor
  · rintro ⟨⟨other, v⟩, hv, same⟩
    obtain ⟨names, values⟩ := Prod.mk.inj same
    obtain rfl := String.toList_inj.mp names
    exact ⟨v, hv, values⟩
  · rintro ⟨v, hv, rfl⟩
    exact ⟨(name, v), hv, rfl⟩

/-- The host of a link that was written depends on nothing but the host that it was written of. -/
theorem Encodes.host_eq {query : Params} (lawful : urls.Lawful) (h : Encodes urls t u)
    (h' : Encodes urls t' { u with query }) (known : u.scheme ∉ UrlLibrary.schemesWithPort) :
    t.host = t'.host := by
  obtain ⟨written, server⟩ := lawful.server
  obtain ⟨url, made, whole⟩ := h.server
  obtain ⟨url', made', whole'⟩ := h'.server
  rw [server known made, h.port] at whole
  rw [server known made', h'.port] at whole'
  exact (List.append_cancel_right whole).symm.trans (List.append_cancel_right whole')

theorem Encodes.sameButDrawn {query : Params} (lawful : urls.Lawful) (h : Encodes urls t u)
    (h' : Encodes urls t' { u with query }) (known : u.scheme ∉ UrlLibrary.schemesWithPort)
    (same : Link.SameButDrawn u.query query) : t.SameButDrawn t' where
  scheme := h.scheme.trans h'.scheme.symm
  userinfo := h.userinfo.trans h'.userinfo.symm
  host := h.host_eq lawful h' known
  port := h.port.trans h'.port.symm
  fragment := h.fragment.trans h'.fragment.symm
  query := by
    rw [h.pairs_eq, h'.pairs_eq]
    apply List.forall₂_map_left_iff.mpr
    apply List.forall₂_map_right_iff.mpr
    apply same.imp
    intro x y both
    refine ⟨congrArg String.toList both.1, fun kept => ?_⟩
    have notDrawn : x.1 ∉ drawnNames := fun drawn => kept (List.mem_map_of_mem drawn)
    exact congrArg String.toList (both.2 notDrawn)

/-- What stands under a name that is drawn was drawn, unless the endpoint leaves it out. -/
theorem Encodes.mem_pairs_drawn {p : Protocol} {i : Inbound} {c : Client}
    {choice : Reality.Choice} {e : Endpoint} {remark : String} (draws : i.stream.DrawsFor p)
    (h : Encodes urls t (uriParts p i c (some choice) e remark)) {name : String}
    (drawn : name ∈ drawnNames) (value : List Char) :
    (name.toList, value) ∈ t.pairs ↔
      (e.forceTls = "none" → name ∉ tlsNames) ∧
        ∃ v, (name, v) ∈ i.stream.reality.fields choice ∧ v.toList = value := by
  have other : name ≠ "security" := by
    rintro rfl
    exact absurd drawn (by decide)
  rw [h.mem_pairs]
  simp only [uriParts, mem_forced other, mem_params_drawn draws c choice drawn]
  constructor
  · rintro ⟨v, ⟨hv, kept⟩, same⟩
    exact ⟨kept, v, hv, same⟩
  · rintro ⟨kept, v, hv, same⟩
    exact ⟨v, ⟨hv, kept⟩, same⟩

theorem Encodes.carries {p : Protocol} {i : Inbound} {c : Client} {choice : Reality.Choice}
    {e : Endpoint} {remark : String} (draws : i.stream.DrawsFor p)
    (h : Encodes urls t (uriParts p i c (some choice) e remark)) : t.Carries choice where
  serverName value hvalue := by
    obtain ⟨-, v, hv, rfl⟩ := (h.mem_pairs_drawn draws (by decide) value).mp hvalue
    have found : choice.serverName = some v := by
      simpa [Reality.fields, optionalParam, nonemptyParam] using hv
    rw [found, Option.map_some]
  shortId value := by
    rw [h.mem_pairs_drawn draws (by decide) value]
    simp [Reality.fields, optionalParam, nonemptyParam, tlsNames]
  spiderPath value := by
    have stands : ("spx".toList, value) ∈ t.pairs ↔ choice.spiderPath.toList = value := by
      rw [h.mem_pairs_drawn draws (by decide) value]
      simp [Reality.fields, optionalParam, nonemptyParam, tlsNames]
    exact stands.trans eq_comm

end UriText

theorem choose_of_drawsFor {s : Stream} {p : Protocol} (draws : s.DrawsFor p) (source : Source) :
    choose p s source = (some (s.reality.choose source).1, (s.reality.choose source).2) := by
  rw [choose, if_pos (carriesReality_of_drawsFor draws), Reality.chooseIfPresent,
    if_pos draws.2.1]

theorem choose_of_not_drawsFor {s : Stream} {p : Protocol} (no : ¬ s.DrawsFor p)
    (source : Source) : choose p s source = (none, source) := by
  unfold choose
  split
  · next reality =>
    obtain ⟨security, carries⟩ := Bool.and_eq_true_iff.mp reality
    have absent : ¬ s.reality.present = true := by
      intro present
      exact no ⟨beq_iff_eq.mp security, present, by simpa [carriesReality] using carries⟩
    rw [Reality.chooseIfPresent, if_neg absent]
  · rfl

/-- A line is the URI link to an endpoint, with a remark, in which some drawn values stand. -/
structure WrittenWith (urls : UrlLibrary) (p : Protocol) (i : Inbound) (c : Client)
    (choice : Reality.Choice) (e : Endpoint) (remark : String) (line : List Char) (t : UriText) :
    Prop where
  text : line = t.text
  encodes : UriText.Encodes urls t (uriParts p i c (some choice) e remark)
  carries : t.Carries choice

theorem exists_writtenWith {p : Protocol} {i : Inbound} {c : Client} {choice : Reality.Choice}
    {manner : Link.Manner} {e : Endpoint} {text : String} (lawful : manner.urls.Lawful)
    (draws : i.stream.DrawsFor p) (h : line p i c (some choice) manner e = .ok text) :
    ∃ remark t, i.remarkText manner c.email e.remark = .ok remark ∧
      WrittenWith manner.urls p i c choice e remark text.toList t := by
  obtain ⟨remark, remarked, -, rendered⟩ := line_eq_ok h
  have uri : p ≠ .vmess := by
    rintro rfl
    rcases draws.2.2 with other | other
    · cases other
    · cases other
  obtain ⟨t, whole, encodes⟩ := UriText.exists_encodes lawful (rendered uri)
    (scheme_plain p).2 (forced_params_ne_nil _ _ _ _ _)
  exact ⟨remark, t, remarked, whole, encodes, encodes.carries draws⟩

/-- Lines of two runs for one endpoint differ in drawn values alone. -/
theorem WrittenWith.sameButDrawn {p : Protocol} {i : Inbound} {c : Client}
    {choice choice' : Reality.Choice} {e : Endpoint} {remark : String} {line line' : List Char}
    {t t' : UriText} {urls : UrlLibrary} (lawful : urls.Lawful) (draws : i.stream.DrawsFor p)
    (possible : choice.IsFrom i.stream.reality)
    (possible' : choice'.IsFrom i.stream.reality)
    (h : WrittenWith urls p i c choice e remark line t)
    (h' : WrittenWith urls p i c choice' e remark line' t') : t.SameButDrawn t' :=
  h.encodes.sameButDrawn lawful h'.encodes (scheme_plain p).2
    ((sameButDrawn_params draws c possible possible').forced e.forceTls)

end Link

namespace Inbound

open Link

/-- A link to the client with an email draws: there is one, and links of the protocol draw. -/
def Draws (i : Inbound) (email : String) : Prop :=
  ∃ p c, i.protocol? = some p ∧ i.settings.find? email = some c ∧ i.stream.DrawsFor p

variable {i : Inbound} {manner : Link.Manner} {address email : String}

/-- Where nothing is drawn the random source is of no account, and it is left as it was. -/
theorem link_of_not_draws (no : ¬ i.Draws email) (source other : Source) :
    i.link manner address email source = ((i.link manner address email other).1, source) := by
  unfold link
  cases protocol : i.protocol? with
  | none => rfl
  | some p =>
    dsimp only
    unfold linkOf
    split
    · cases found : i.settings.find? email with
      | none => rfl
      | some c =>
        have nothing := choose_of_not_drawsFor fun draws => no ⟨p, c, protocol, found, draws⟩
        simp only [nothing]
    · rfl

/-- Two links to one client, written with different random sources. Where the stream has Reality
settings that the links carry, they have the same lines but for the server names, short ids and
paths in their queries. Each of the two has the same drawn values in all its lines, from what the
settings allow, and it drew as many words as these values take. In all other cases the links are
the same, and nothing was drawn. -/
theorem randomness_reaches_drawn_values_only (lawful : manner.urls.Lawful)
    {text₁ text₂ : String} {source₁ source₂ after₁ after₂ : Source}
    (first : i.link manner address email source₁ = (.ok text₁, after₁))
    (second : i.link manner address email source₂ = (.ok text₂, after₂)) :
    (∀ p c, i.protocol? = some p → i.settings.find? email = some c → i.stream.DrawsFor p →
      ∃ choice₁ choice₂ : Reality.Choice,
        (choice₁.IsFrom i.stream.reality ∧ choice₂.IsFrom i.stream.reality) ∧
        (after₁.used = source₁.used + i.stream.reality.drawCount ∧
          after₂.used = source₂.used + i.stream.reality.drawCount) ∧
        List.Forall₂
          (fun line₁ line₂ => ∃ e ∈ targets i address, ∃ remark t₁ t₂,
            WrittenWith manner.urls p i c choice₁ e remark line₁ t₁ ∧
            WrittenWith manner.urls p i c choice₂ e remark line₂ t₂ ∧ t₁.SameButDrawn t₂)
          (Text.splitOn (· == '\n') text₁.toList) (Text.splitOn (· == '\n') text₂.toList)) ∧
    (¬ i.Draws email → text₁ = text₂ ∧ after₁ = source₁ ∧ after₂ = source₂) := by
  constructor
  · intro p c protocol found draws
    obtain ⟨written₁, lines₁, rfl, rfl⟩ := link_eq_ok protocol found first
    obtain ⟨written₂, lines₂, rfl, rfl⟩ := link_eq_ok protocol found second
    rw [choose_of_drawsFor draws] at lines₁ lines₂
    have possible₁ := i.stream.reality.isFrom_choose source₁
    have possible₂ := i.stream.reality.isFrom_choose source₂
    refine ⟨_, _, ⟨possible₁, possible₂⟩, ?_, ?_⟩
    · rw [choose_of_drawsFor draws, choose_of_drawsFor draws]
      exact ⟨i.stream.reality.used_choose source₁, i.stream.reality.used_choose source₂⟩
    · rw [splitOn_lines (fun _ => lawful) lines₁, splitOn_lines (fun _ => lawful) lines₂,
        List.forall₂_map_left_iff, List.forall₂_map_right_iff]
      apply forall₂_of_common _ (mapM_eq_ok_iff.mp lines₁) (mapM_eq_ok_iff.mp lines₂)
      intro e he line₁ line₂ wrote₁ wrote₂
      obtain ⟨remark, t₁, remarked, with₁⟩ := exists_writtenWith lawful draws wrote₁
      obtain ⟨remark', t₂, remarked', with₂⟩ := exists_writtenWith lawful draws wrote₂
      obtain rfl : remark = remark' := Except.ok.inj (remarked.symm.trans remarked')
      exact ⟨e, he, remark, t₁, t₂, with₁, with₂,
        with₁.sameButDrawn lawful draws possible₁ possible₂ with₂⟩
  · intro no
    rw [link_of_not_draws no source₁ source₂, second] at first
    rw [link_of_not_draws no source₂ source₂] at second
    exact ⟨(Except.ok.inj (Prod.mk.inj first).1).symm, (Prod.mk.inj first).2.symm,
      (Prod.mk.inj second).2.symm⟩

/-- An inbound with Reality settings and one client. -/
def realityInbound : Inbound :=
  { port := 443
    protocol := "vless"
    settings := { clients := [{ email := "ada", id := "k1" }] }
    stream :=
      { network := "tcp"
        security := "reality"
        reality := { present := true, serverNames := ["ex.org"], shortIds := ["6b"] } } }

/-- Two links with other random sources. They differ in the drawn path, as there is only one server
name and one short id. -/
theorem reality_links_differ_in_drawn_values :
    ∃ text₁ text₂ after₁ after₂,
      realityInbound.link Link.plainManner "a.example" "ada" (Source.ofWords [0]) =
        (.ok text₁, after₁) ∧
      realityInbound.link Link.plainManner "a.example" "ada" (Source.ofWords [1, 2]) =
        (.ok text₂, after₂) ∧
      text₁ ≠ text₂ ∧ (after₁.used = 17 ∧ after₂.used = 17) ∧
      List.Forall₂
        (fun line₁ line₂ => ∃ t₁ t₂ : UriText,
          line₁ = t₁.text ∧ line₂ = t₂.text ∧ t₁.SameButDrawn t₂)
        (Text.splitOn (· == '\n') text₁.toList) (Text.splitOn (· == '\n') text₂.toList) := by
  have written (source : Source) (text : String)
      (h : (realityInbound.link Link.plainManner "a.example" "ada" source).1 = .ok text) :
      ∃ after, realityInbound.link Link.plainManner "a.example" "ada" source =
        (.ok text, after) := ⟨_, Prod.ext h rfl⟩
  obtain ⟨after₁, first⟩ := written (Source.ofWords [0])
    ("vless://k1@a.example:443?type=tcp&security=reality&sni=ex.org&sid=6b" ++
      "&spx=%2Faaaaaaaaaaaaaaa#ada") (by decide +kernel)
  obtain ⟨after₂, second⟩ := written (Source.ofWords [1, 2])
    ("vless://k1@a.example:443?type=tcp&security=reality&sni=ex.org&sid=6b" ++
      "&spx=%2Fbcbcbcbcbcbcbcb#ada") (by decide +kernel)
  obtain ⟨choice₁, choice₂, -, used, lines⟩ :=
    (randomness_reaches_drawn_values_only lawful_plainManner first second).1 .vless _ rfl rfl
      ⟨rfl, rfl, .inl rfl⟩
  refine ⟨_, _, after₁, after₂, first, second, by decide, used, lines.imp ?_⟩
  rintro line₁ line₂ ⟨e, -, remark, t₁, t₂, with₁, with₂, same⟩
  exact ⟨t₁, t₂, with₁.text, with₂.text, same⟩

/-- A record of that inbound. -/
def realityRecord : Record :=
  .ofJson <| .object
    [("port", .int 443), ("protocol", .string "vless"),
      ("settings", .object [("clients", .array
        [.object [("email", .string "ada"), ("id", .string "k1")]])]),
      ("streamSettings", .object
        [("network", .string "tcp"), ("security", .string "reality"),
          ("realitySettings", .object [("serverNames", .array [.string "ex.org"]),
            ("shortIds", .array [.string "6b"])])])]

/-- Nothing is drawn for an email without a client, whatever the settings. -/
theorem nothing_drawn_without_client :
    ofRecord realityRecord = .ok realityInbound ∧ realityInbound.protocol? = some .vless ∧
      realityInbound.stream.DrawsFor .vless ∧
      ∃ after,
        realityInbound.link Link.plainManner "a.example" "bo" (Source.ofWords [0]) =
          (.ok "", after) ∧
        after.used ≠ (Source.ofWords [0]).used + realityInbound.stream.reality.drawCount := by
  refine ⟨rfl, rfl, ⟨rfl, rfl, .inl rfl⟩, _, rfl, ?_⟩
  decide

end Inbound
end ShareLinks
