import ShareLinks.Proofs.Link.Intended
import ShareLinks.Proofs.Link.Randomness

/-!
# The layout of a query

The parameters of a link are written into an ordered map, group by group: to write a name that is
there already replaces its value in its old place. No name is written twice, so the map ends up as
the groups one behind the other, each of them whole. What is drawn is drawn while it is written.
-/

namespace ShareLinks

namespace Params

/-- Sets a parameter: in its place if there is one of its name, and at the end otherwise. -/
def put (name value : String) (ps : Params) : Params :=
  if name ∈ ps.map (·.1) then
    ps.map fun (other, old) => (other, if other = name then value else old)
  else ps ++ [(name, value)]

/-- Sets a parameter if there is a value for it. -/
def putIfAny (name : String) : Option String → Params → Params
  | some value, ps => put name value ps
  | none, ps => ps

/-- Sets parameters one after another. -/
def putAll (new ps : Params) : Params :=
  new.foldl (fun ps (name, value) => put name value ps) ps

theorem put_of_not_mem {name : String} (value : String) {ps : Params}
    (new : name ∉ ps.map (·.1)) : put name value ps = ps ++ [(name, value)] :=
  if_neg new

theorem putAll_append (new more ps : Params) :
    putAll (new ++ more) ps = putAll more (putAll new ps) :=
  List.foldl_append

theorem putAll_optionalParam (name : String) (value : Option String) (ps : Params) :
    putAll (optionalParam name value) ps = putIfAny name value ps := by
  cases value <;> rfl

theorem putAll_of_nodup {new ps : Params} (distinct : ((ps ++ new).map (·.1)).Nodup) :
    putAll new ps = ps ++ new := by
  induction new generalizing ps with
  | nil => exact (List.append_nil ps).symm
  | cons field new ih =>
    obtain ⟨name, value⟩ := field
    have split : ps ++ (name, value) :: new = ps ++ [(name, value)] ++ new := by simp
    have fresh : name ∉ ps.map (·.1) := by
      rw [List.map_append, List.map_cons] at distinct
      exact (List.nodup_cons.mp (List.nodup_middle.mp distinct)).1 ∘ List.mem_append_left _
    calc putAll ((name, value) :: new) ps
        = putAll new (put name value ps) := rfl
      _ = putAll new (ps ++ [(name, value)]) := by rw [put_of_not_mem value fresh]
      _ = ps ++ (name, value) :: new := by rw [ih (split ▸ distinct), split]

end Params

open Params (put putIfAny putAll)

/-- Writes TLS settings into the parameters of a link. -/
def Tls.write (t : Tls) (ps : Params) : Params :=
  let ps := put "security" "tls" ps
  let ps := if t.alpn.isEmpty then ps else put "alpn" t.alpnText ps
  let ps := putIfAny "sni" t.serverName ps
  let ps := putIfAny "fp" t.fingerprint ps
  if t.allowInsecure = some true then put "allowInsecure" "1" ps else ps

theorem Tls.write_eq (t : Tls) (ps : Params) : t.write ps = putAll t.linkParams ps := by
  have named : putAll t.linkParams ps =
      putAll (if t.allowInsecure = some true then [("allowInsecure", "1")] else [])
        (putAll t.commonParams (put "security" "tls" ps)) :=
    Params.putAll_append _ _ _
  rw [named, commonParams, Params.putAll_append, Params.putAll_append,
    Params.putAll_optionalParam, Params.putAll_optionalParam, Tls.write]
  split <;> split <;> rfl

/-- Writes Reality settings into the parameters of a link, and draws for them. -/
def Reality.write (r : Reality) (ps : Params) (source : Source) : Params × Source :=
  let ps := put "security" "reality" ps
  if r.present then
    let (serverName, source) := chooseFrom r.serverNames source
    let ps := putIfAny "sni" serverName ps
    let ps := putIfAny "pbk" r.publicKey ps
    let (shortId, source) := chooseFrom r.shortIds source
    let ps := putIfAny "sid" shortId ps
    let ps := if r.fingerprint.isEmpty then ps else put "fp" r.fingerprint ps
    let ps := if r.mldsa65Verify.isEmpty then ps else put "pqv" r.mldsa65Verify ps
    let (path, source) := source.letters spiderLength
    (put "spx" ("/" ++ path) ps, source)
  else (ps, source)

theorem Params.putAll_nonemptyParam (name value : String) (ps : Params) :
    putAll (nonemptyParam name value) ps = if value.isEmpty then ps else put name value ps := by
  unfold nonemptyParam
  split <;> rfl

theorem Reality.write_eq (r : Reality) (ps : Params) (source : Source) :
    r.write ps source =
      (putAll (r.linkParams (r.chooseIfPresent source).1) ps, (r.chooseIfPresent source).2) := by
  cases present : r.present with
  | false => simp [Reality.write, chooseIfPresent, present, linkParams, putAll]
  | true =>
    have named (choice : Choice) : putAll (r.linkParams (some choice)) ps =
        putAll (r.fields choice) (put "security" "reality" ps) := rfl
    rw [Reality.write, chooseIfPresent, if_pos present, if_pos present]
    simp only [named, fields, Params.putAll_append, Params.putAll_optionalParam,
      Params.putAll_nonemptyParam]
    rfl

namespace Link

/-- Writes the parameters of a link. -/
def write (p : Protocol) (i : Inbound) (c : Client) (source : Source) : Params × Source :=
  let ps : Params := [("type", i.stream.network)]
  let ps := if p = .vless then putIfAny "encryption" i.settings.encryption ps else ps
  let ps := putAll i.stream.transportParams ps
  let (ps, source) :=
    if i.stream.isTls then (i.stream.tls.write ps, source)
    else if i.stream.isReality && carriesReality p then i.stream.reality.write ps source
    else (put "security" "none" ps, source)
  (if carriesFlow p i.stream && !c.flow.isEmpty then put "flow" c.flow ps else ps, source)

theorem putAll_securityParams (p : Protocol) (s : Stream) (ps : Params) (source : Source) :
    (if s.isTls then (s.tls.write ps, source)
      else if s.isReality && carriesReality p then s.reality.write ps source
      else (put "security" "none" ps, source)) =
      (putAll (securityParams p s (choose p s source).1) ps, (choose p s source).2) := by
  rw [securityParams, choose]
  cases tls : s.isTls with
  | true =>
    have notReality : s.isReality = false := by
      have security : s.security = "tls" := beq_iff_eq.mp tls
      rw [Stream.isReality, security]
      rfl
    simp [notReality, Tls.write_eq]
  | false =>
    cases reality : s.isReality && carriesReality p with
    | true => simp [Reality.write_eq]
    | false => simp [putAll]

theorem write_eq (p : Protocol) (i : Inbound) (c : Client) (source : Source) :
    write p i c source =
      (params p i c (choose p i.stream source).1, (choose p i.stream source).2) := by
  have encryption (ps : Params) :
      (if p = .vless then putIfAny "encryption" i.settings.encryption ps else ps) =
        putAll (encryptionParams p i.settings) ps := by
    unfold encryptionParams
    split
    · exact (Params.putAll_optionalParam _ _ _).symm
    · rfl
  have flow (ps : Params) :
      (if carriesFlow p i.stream && !c.flow.isEmpty then put "flow" c.flow ps else ps) =
        putAll (flowParams p i.stream c) ps := by
    unfold flowParams
    cases carriesFlow p i.stream with
    | false => rfl
    | true => cases empty : c.flow.isEmpty <;> simp [nonemptyParam, empty, putAll]
  have written : (write p i c source).1 =
      putAll (params p i c (choose p i.stream source).1) [] := by
    simp only [write, encryption, flow, putAll_securityParams, params, Params.putAll_append]
    rfl
  have distinct : ((([] : Params) ++ params p i c (choose p i.stream source).1).map (·.1)).Nodup :=
    nodup_params p i c _
  refine Prod.ext (written.trans (Params.putAll_of_nodup distinct)) ?_
  simp only [write, putAll_securityParams]

/-- The parameters of a table that have a value. -/
def given (table : List (String × Option String)) : Params :=
  table.filterMap fun (name, value) => value.map fun v => (name, v)

/-- A text that is not empty. -/
def filled (s : String) : Option String :=
  if s = "" then none else some s

/-- What TLS settings can say in a query beside their name. -/
def tlsTable (t : Tls) : List (String × Option String) :=
  [("alpn", if t.alpn = [] then none else some (String.intercalate "," t.alpn)),
    ("sni", t.serverName), ("fp", t.fingerprint),
    ("allowInsecure", if t.allowInsecure = some true then some "1" else none)]

/-- What Reality settings can say in a query beside their name, with what is drawn for them. -/
def realityTable (r : Reality) (choice : Reality.Choice) : List (String × Option String) :=
  [("sni", choice.serverName), ("pbk", r.publicKey), ("sid", choice.shortId),
    ("fp", filled r.fingerprint), ("pqv", filled r.mldsa65Verify), ("spx", some choice.spiderPath)]

/-- The security that a query names. -/
def securityTag (p : Protocol) (s : Stream) : String :=
  if s.security = "tls" then "tls"
  else if s.security = "reality" ∧ (p = .vless ∨ p = .trojan) then "reality"
  else "none"

/-- What can stand behind the name of the security. -/
def securityTable (p : Protocol) (s : Stream) (source : Source) : List (String × Option String) :=
  if s.security = "tls" then tlsTable s.tls
  else if s.security = "reality" ∧ (p = .vless ∨ p = .trojan) ∧ s.reality.present = true then
    realityTable s.reality (s.reality.choose source).1
  else []

/-- The flow that a query names. -/
def flow? (p : Protocol) (s : Stream) (c : Client) : Option String :=
  if c.flow ≠ "" ∧ s.network = "tcp" ∧
      (p = .vless ∧ (s.security = "tls" ∨ s.security = "reality") ∨
        p = .trojan ∧ s.security = "reality") then
    some c.flow
  else none

theorem given_cons (name : String) (value : Option String) (table : List (String × Option String)) :
    given ((name, value) :: table) = optionalParam name value ++ given table := by
  cases value <;> rfl

theorem given_nil : given [] = [] := rfl

theorem optionalParam_filled (name value : String) :
    optionalParam name (filled value) = nonemptyParam name value := by
  unfold filled nonemptyParam
  by_cases empty : value = ""
  · simp [empty, optionalParam]
  · simp [empty, optionalParam]

theorem linkParams_tls (t : Tls) : t.linkParams = ("security", "tls") :: given (tlsTable t) := by
  have alpn : (if t.alpn.isEmpty then [] else [("alpn", t.alpnText)] : Params) =
      optionalParam "alpn"
        (if t.alpn = [] then none else some (String.intercalate "," t.alpn)) := by
    by_cases empty : t.alpn = []
    · simp [empty, optionalParam]
    · simp [empty, optionalParam, Tls.alpnText]
  have permission :
      (if t.allowInsecure = some true then [("allowInsecure", "1")] else [] : Params) =
        optionalParam "allowInsecure" (if t.allowInsecure = some true then some "1" else none) := by
    split <;> rfl
  rw [Tls.linkParams, Tls.commonParams, alpn, permission, tlsTable]
  simp only [given_cons, given_nil, List.append_nil, List.append_assoc, List.cons_append]

theorem fields_reality (r : Reality) (choice : Reality.Choice) :
    r.fields choice = given (realityTable r choice) := by
  rw [Reality.fields, realityTable]
  simp only [given_cons, given_nil, optionalParam_filled, List.append_nil, List.append_assoc]
  rfl

theorem carriesFlow_iff (p : Protocol) (s : Stream) :
    carriesFlow p s = true ↔ s.network = "tcp" ∧
      (p = .vless ∧ (s.security = "tls" ∨ s.security = "reality") ∨
        p = .trojan ∧ s.security = "reality") := by
  cases p <;> simp [carriesFlow, Stream.isTls, Stream.isReality]

theorem isReality_and_carriesReality_iff (p : Protocol) (s : Stream) :
    (s.isReality && carriesReality p) = true ↔
      s.security = "reality" ∧ (p = .vless ∨ p = .trojan) := by
  simp [Stream.isReality, carriesReality]

theorem securityParams_eq_given (p : Protocol) (s : Stream) (source : Source) :
    securityParams p s (choose p s source).1 =
      ("security", securityTag p s) :: given (securityTable p s source) := by
  by_cases tls : s.security = "tls"
  · simp [securityParams, Stream.isTls, securityTag, securityTable, tls, linkParams_tls]
  have notTls : ¬ s.isTls = true := by simpa [Stream.isTls] using tls
  by_cases draws : s.DrawsFor p
  · rw [choose_of_drawsFor draws, securityParams_of_drawsFor draws, securityTag, if_neg tls,
      if_pos ⟨draws.1, draws.2.2⟩, securityTable, if_neg tls,
      if_pos ⟨draws.1, draws.2.2, draws.2.1⟩, fields_reality]
  · have nothing : securityTable p s source = [] := by
      rw [securityTable, if_neg tls,
        if_neg fun carried => draws ⟨carried.1, carried.2.2, carried.2.1⟩]
    rw [choose_of_not_drawsFor draws, nothing, securityParams, if_neg notTls, securityTag,
      if_neg tls]
    by_cases carried : s.security = "reality" ∧ (p = .vless ∨ p = .trojan)
    · rw [if_pos carried, if_pos ((isReality_and_carriesReality_iff p s).mpr carried)]
      rfl
    · rw [if_neg carried, if_neg fun h => carried ((isReality_and_carriesReality_iff p s).mp h)]
      rfl

theorem encryptionParams_eq_given (p : Protocol) (settings : Settings) :
    encryptionParams p settings =
      given [("encryption", if p = .vless then settings.encryption else none)] := by
  rw [given_cons, given_nil, List.append_nil, encryptionParams]
  split <;> rfl

theorem flowParams_eq_given (p : Protocol) (s : Stream) (c : Client) :
    flowParams p s c = given [("flow", flow? p s c)] := by
  rw [given_cons, given_nil, List.append_nil, flowParams, ← optionalParam_filled]
  by_cases carried : carriesFlow p s = true
  · have may := (carriesFlow_iff p s).mp carried
    have same : flow? p s c = filled c.flow := by
      by_cases empty : c.flow = ""
      · simp [flow?, filled, empty]
      · rw [flow?, if_pos ⟨empty, may⟩, filled, if_neg empty]
    rw [if_pos carried, same]
  · have none : flow? p s c = none :=
      if_neg fun names => carried ((carriesFlow_iff p s).mpr names.2)
    rw [if_neg carried, none]
    rfl

/-- What a query is meant to say, one group behind the other: the network, the encryption, what the
network has to say of itself, the security, what belongs to it, and the flow. -/
def layout (p : Protocol) (i : Inbound) (c : Client) (source : Source) : Params :=
  [("type", i.stream.network)] ++
    given [("encryption", if p = .vless then i.settings.encryption else none)] ++
    transportQuery i.stream ++
    [("security", securityTag p i.stream)] ++
    given (securityTable p i.stream source) ++
    given [("flow", flow? p i.stream c)]

theorem params_eq_layout (p : Protocol) (i : Inbound) (c : Client) (source : Source) :
    params p i c (choose p i.stream source).1 = layout p i c source := by
  rw [params, layout, encryptionParams_eq_given, flowParams_eq_given, securityParams_eq_given,
    transportParams_eq]
  simp only [List.append_assoc, List.cons_append, List.nil_append]

/-- The parameters of a link are written group by group, and no group touches what another one
wrote: their names are distinct, and the groups stand whole, one behind the other. -/
theorem write_layout (p : Protocol) (i : Inbound) (c : Client) (source : Source) :
    (write p i c source).1 = params p i c (choose p i.stream source).1 ∧
    ((write p i c source).1.map (·.1)).Nodup ∧
    (write p i c source).1 = layout p i c source := by
  rw [write_eq]
  exact ⟨rfl, nodup_params p i c _, params_eq_layout p i c source⟩

/-- An inbound whose transport, security and clients all have something to say. -/
def wordyInbound : Inbound :=
  { protocol := "vless"
    settings := { encryption := some "none" }
    stream :=
      { network := "tcp"
        security := "tls"
        tcp := { headerType := "http", paths := ["/a", "/b"], headers := [⟨"hOst", "h.example"⟩] }
        grpc := { serviceName := "gun", authority := some "g.example", multiMode := true }
        tls := { alpn := ["h2", "http/1.1"], serverName := some "s.example",
                 allowInsecure := some true }
        reality := { present := true, serverNames := ["r.example"], publicKey := some "key" } } }

/-- The groups of a vless link over a disguised connection with TLS, and of a trojan link over
streams of calls with Reality. -/
theorem wordy_groups_stand_whole :
    (write .vless wordyInbound { email := "ada", flow := "vision" } (Source.ofWords [0])).1 =
      [("type", "tcp"), ("encryption", "none"), ("path", "/a"), ("host", "h.example"),
        ("headerType", "http"), ("security", "tls"), ("alpn", "h2,http/1.1"), ("sni", "s.example"),
        ("allowInsecure", "1"), ("flow", "vision")] ∧
    (write .trojan
        { wordyInbound with
          stream := { wordyInbound.stream with network := "grpc", security := "reality" } }
        { email := "ada", flow := "vision" } (Source.ofWords [0])).1 =
      [("type", "grpc"), ("serviceName", "gun"), ("authority", "g.example"), ("mode", "multi"),
        ("security", "reality"), ("sni", "r.example"), ("pbk", "key"),
        ("spx", "/aaaaaaaaaaaaaaa")] :=
  ⟨(write_layout _ _ _ _).2.2.trans (by decide +kernel),
    (write_layout _ _ _ _).2.2.trans (by decide +kernel)⟩

end Link
end ShareLinks
