import ShareLinks.Proofs.Link.FanOut
import ShareLinks.Proofs.Link.Layout

/-!
# Endpoints without security

An endpoint in front of a server can take the security away from a link that was written for the
server. A description is then the one that the stream without its security would have had. A query
can keep something of the security: the flow, and of Reality settings what TLS has no name for.
-/

namespace ShareLinks

/-- The inbound with some security in place of that of its stream. -/
def Inbound.secured (i : Inbound) (security : String) : Inbound :=
  { i with stream := { i.stream with security } }

namespace Link

namespace Vmess

/-- What is set for an endpoint without security is what is set for a stream without it. -/
theorem assignments_none (i : Inbound) (c : Client) (dest extra remark : String) (port : Int) :
    assignments i c ⟨"none", dest, port, extra⟩ remark =
      directAssignments (i.secured "none") c dest port remark := by
  have untold : tlsFields i.stream "none" = [] := by simp [tlsFields]
  have named : securityName (i.secured "none").stream = "none" := rfl
  have unsecured : (i.secured "none").stream.isTls = false := rfl
  rw [assignments, directAssignments, untold, named, unsecured]
  rfl

end Vmess

theorem stripped_append {α : Type} (told more : List (String × α)) :
    stripped (told ++ more) = stripped told ++ stripped more :=
  List.filter_append told more

theorem stripped_cons {α : Type} (name : String) (value : α) (told : List (String × α)) :
    stripped ((name, value) :: told) =
      if name ∈ tlsNames then stripped told else (name, value) :: stripped told := by
  by_cases tls : name ∈ tlsNames
  · rw [if_pos tls]
    exact List.filter_cons_of_neg (by simpa using tls)
  · rw [if_neg tls]
    exact List.filter_cons_of_pos (by simpa using tls)

theorem stripped_given (table : List (String × Option String)) :
    stripped (given table) = given (stripped table) := by
  induction table with
  | nil => rfl
  | cons row table ih =>
    obtain ⟨name, value⟩ := row
    have own : stripped (optionalParam name value) =
        if name ∈ tlsNames then [] else optionalParam name value := by
      cases value with
      | none => exact (ite_self _).symm
      | some v => exact stripped_cons name v []
    rw [given_cons, stripped_append, own, ih, stripped_cons]
    split
    · rfl
    · exact (given_cons name value _).symm

theorem stripped_of_names {ps : Params} {names : List String}
    (known : (ps.map (·.1)).Sublist names) (apart : ∀ name ∈ names, name ∉ tlsNames) :
    stripped ps = ps := by
  apply List.filter_eq_self.mpr
  intro field hfield
  simpa using apart field.1 (known.subset (List.mem_map_of_mem hfield))

/-- Where the security is named once, an endpoint without security replaces its name, and leaves out
what goes with TLS on both sides of it. -/
theorem forced_none {before after : Params} {tag : String}
    (once : "security" ∉ (before ++ after).map (·.1)) :
    forced "none" (before ++ ("security", tag) :: after) =
      stripped before ++ ("security", "none") :: stripped after := by
  have elsewhere {ps : Params} (h : "security" ∉ ps.map (·.1)) :
      (stripped ps).map (fun field =>
        (field.1, if field.1 = "security" then "none" else field.2)) = stripped ps := by
    refine (List.map_congr_left fun field hfield => ?_).trans (List.map_id _)
    have other : field.1 ≠ "security" := by
      intro same
      exact h (List.mem_map.mpr ⟨field, (List.mem_filter.mp hfield).1, same⟩)
    rw [if_neg other]
    rfl
  rw [List.map_append, List.mem_append, not_or] at once
  have taken : forced "none" (before ++ ("security", tag) :: after) =
      (stripped (before ++ ("security", tag) :: after)).map fun field =>
        (field.1, if field.1 = "security" then "none" else field.2) := rfl
  rw [taken, stripped_append, stripped_cons, if_neg (by decide), List.map_append, List.map_cons,
    elsewhere once.1, elsewhere once.2]
  rfl

/-- What a query says before it comes to the security. -/
def front (p : Protocol) (i : Inbound) : Params :=
  ("type", i.stream.network) :: encryptionParams p i.settings ++ i.stream.transportParams

theorem names_front (p : Protocol) (i : Inbound) :
    ((front p i).map (·.1)).Sublist ("type" :: ["encryption"] ++ Transport.linkNames) := by
  rw [front, List.map_append, List.map_cons]
  exact ((names_encryptionParams p i.settings).cons_cons "type").append
    i.stream.names_transportParams

theorem params_eq_front (p : Protocol) (i : Inbound) (c : Client) (source : Source) :
    params p i c (choose p i.stream source).1 =
      front p i ++ ("security", securityTag p i.stream) ::
        (given (securityTable p i.stream source) ++ given [("flow", flow? p i.stream c)]) := by
  rw [params, flowParams_eq_given, securityParams_eq_given, List.append_assoc, List.cons_append]
  rfl

/-- What a query keeps of the security when an endpoint takes it away. -/
def leftBehind (p : Protocol) (s : Stream) (c : Client) (source : Source) : Params :=
  given (stripped (securityTable p s source)) ++ given [("flow", flow? p s c)]

theorem params_secured_none (p : Protocol) (i : Inbound) (c : Client) (source : Source) :
    params p (i.secured "none") c (choose p (i.secured "none").stream source).1 =
      front p i ++ [("security", "none")] := by
  have noFlow : flow? p (i.secured "none").stream c = none := by simp [flow?, Inbound.secured]
  rw [params_eq_front, noFlow]
  rfl

/-- An endpoint without security has the query of the stream without its security, and what is left
of the security behind it. -/
theorem forced_none_params (p : Protocol) (i : Inbound) (c : Client) (source : Source) :
    forced "none" (params p i c (choose p i.stream source).1) =
      params p (i.secured "none") c (choose p (i.secured "none").stream source).1 ++
        leftBehind p i.stream c source := by
  have distinct := nodup_params p i c (choose p i.stream source).1
  have apart : ∀ name ∈ "type" :: ["encryption"] ++ Transport.linkNames, name ∉ tlsNames := by
    decide
  rw [params_eq_front] at distinct ⊢
  rw [List.map_append, List.map_cons] at distinct
  have once := (List.nodup_cons.mp (List.nodup_middle.mp distinct)).1
  rw [forced_none (by rwa [List.map_append]), stripped_of_names (names_front p i) apart,
    params_secured_none, leftBehind, stripped_append, stripped_given, stripped_given]
  simp [stripped, tlsNames]

example :
    forced "none" (params .vless
      { stream := { network := "tcp", security := "tls", tls := { serverName := some "ex.org" } } }
      { flow := "xtls-rprx-vision" } none) =
        [("type", "tcp"), ("security", "none"), ("flow", "xtls-rprx-vision")] := by
  decide

/-- TLS settings leave nothing behind, Reality settings the path to crawl at least. -/
theorem stripped_securityTable_eq_nil_iff (p : Protocol) (s : Stream) (source : Source) :
    given (stripped (securityTable p s source)) = [] ↔ ¬ s.DrawsFor p := by
  by_cases tls : s.security = "tls"
  · have no : ¬ s.DrawsFor p := fun draws => by simp [Stream.DrawsFor, tls] at draws
    have nothing : stripped (tlsTable s.tls) = [] := by simp [stripped, tlsTable, tlsNames]
    rw [securityTable, if_pos tls, nothing]
    exact iff_of_true rfl no
  rw [securityTable, if_neg tls]
  by_cases draws : s.DrawsFor p
  · have path : ("spx", (s.reality.choose source).1.spiderPath) ∈
        given (stripped (realityTable s.reality (s.reality.choose source).1)) :=
      List.mem_filterMap.mpr ⟨("spx", some _), by simp [stripped, realityTable, tlsNames], rfl⟩
    rw [if_pos ⟨draws.1, draws.2.2, draws.2.1⟩]
    exact iff_of_false (List.ne_nil_of_mem path) (not_not_intro draws)
  · rw [if_neg fun carried => draws ⟨carried.1, carried.2.2, carried.2.1⟩]
    exact iff_of_true rfl draws

/-- A query keeps nothing of the security that is taken away unless it names a flow or says
something of Reality settings. -/
theorem leftBehind_eq_nil_iff (p : Protocol) (s : Stream) (c : Client) (source : Source) :
    leftBehind p s c source = [] ↔ flow? p s c = none ∧ ¬ s.DrawsFor p := by
  have flow : given [("flow", flow? p s c)] = [] ↔ flow? p s c = none := by
    cases flow? p s c with
    | none => simp [given]
    | some v => simp [given]
  rw [leftBehind, List.append_eq_nil_iff, flow, stripped_securityTable_eq_nil_iff]
  exact and_comm

/-- A description for an endpoint without security, which is taken out of what was written for the
server, is that of the stream without its security at the same place. So are the parameters of a
query, unless the query named a flow, which is only named with security, or said something of
Reality settings. -/
theorem plain_endpoint_leaves_flow_and_reality (i : Inbound) (c : Client) (source : Source) :
    (∀ (dest extra remark address old : String) (port : Int),
      let e : Endpoint := ⟨"none", dest, port, extra⟩
      let plain := Vmess.setAll []
        (Vmess.directAssignments (i.secured "none") c dest port remark)
      Vmess.redirect e remark
          (Vmess.setAll [] (Vmess.directAssignments i c address i.port old)) = plain ∧
        Vmess.description i c e remark = plain ∧
        Vmess.description (i.secured "none") c e remark = plain) ∧
    ∀ p, forced "none" (params p i c (choose p i.stream source).1) =
        params p (i.secured "none") c (choose p (i.secured "none").stream source).1 ↔
      ¬ (c.flow ≠ "" ∧ i.stream.network = "tcp" ∧
          (p = .vless ∧ (i.stream.security = "tls" ∨ i.stream.security = "reality") ∨
            p = .trojan ∧ i.stream.security = "reality")) ∧
        ¬ (i.stream.security = "reality" ∧ i.stream.reality.present = true ∧
            (p = .vless ∨ p = .trojan)) := by
  constructor
  · intro dest extra remark address old port e plain
    have written : Vmess.description i c e remark = plain :=
      congrArg (Vmess.setAll []) (Vmess.assignments_none i c dest extra remark port)
    refine ⟨?_, written, ?_⟩
    · rw [← Vmess.description_eq_redirect, written]
    · exact congrArg (Vmess.setAll [])
        (Vmess.assignments_none (i.secured "none") c dest extra remark port)
  · intro p
    rw [forced_none_params, List.append_right_eq_self, leftBehind_eq_nil_iff]
    apply and_congr
    · rw [flow?, ite_eq_right_iff]
      simp
    · rfl

end Link
end ShareLinks
