import ShareLinks.Proofs.Link.Description

/-!
# What stands in a query under each name

The groups of parameters have names of their own, so that nothing stands twice in a query, and the
value under a name is that of the one group which has it. An endpoint that puts its own security
in front replaces one value and leaves some names out.
-/

namespace ShareLinks

theorem names_nonemptyParam (name value : String) :
    ((nonemptyParam name value).map (·.1)).Sublist [name] := by
  unfold nonemptyParam
  split
  · exact List.nil_sublist _
  · exact List.Sublist.refl _

/-- The names under which transports say something in the query of a link. -/
def Transport.linkNames : List String :=
  ["path", "host", "headerType", "seed", "serviceName", "authority", "mode"]

theorem Transport.names_linkParams (t : Transport) :
    (t.linkParams.map (·.1)).Sublist linkNames := by
  cases t with
  | tcp t =>
    by_cases http : t.headerType = "http"
    · rw [linkParams, Tcp.linkParams, if_pos http]
      show List.Sublist ["path", "host", "headerType"] linkNames
      decide
    · rw [linkParams, Tcp.linkParams, if_neg http]
      exact List.nil_sublist _
  | kcp t =>
    show List.Sublist ["headerType", "seed"] linkNames
    decide
  | grpc t =>
    cases multi : t.multiMode with
    | true =>
      rw [linkParams, Grpc.linkParams, multi]
      show List.Sublist ["serviceName", "authority", "mode"] linkNames
      decide
    | false =>
      rw [linkParams, Grpc.linkParams, multi]
      show List.Sublist ["serviceName", "authority"] linkNames
      decide
  | webSocket t | httpUpgrade t =>
    show List.Sublist ["path", "host"] linkNames
    decide
  | xhttp t =>
    show List.Sublist ["path", "host", "mode"] linkNames
    decide

theorem Stream.names_transportParams (s : Stream) :
    (s.transportParams.map (·.1)).Sublist Transport.linkNames := by
  unfold transportParams
  cases s.transport? with
  | none => exact List.nil_sublist _
  | some t => exact t.names_linkParams

/-- The names under which TLS settings say something in the query of a link. -/
def Tls.linkNames : List String :=
  "security" :: Link.tlsNames

theorem Tls.names_permission (t : Tls) :
    ((if t.allowInsecure = some true then [("allowInsecure", "1")] else [] : Params).map
      (·.1)).Sublist ["allowInsecure"] := by
  split
  · exact List.Sublist.refl _
  · exact List.nil_sublist _

theorem Tls.names_linkParams (t : Tls) : (t.linkParams.map (·.1)).Sublist linkNames := by
  rw [linkParams, List.map_append, List.map_cons]
  exact (t.names_commonParams.cons_cons "security").append t.names_permission

/-- The names under which Reality settings say something in the query of a link. -/
def Reality.linkNames : List String :=
  ["security", "sni", "pbk", "sid", "fp", "pqv", "spx"]

theorem Reality.names_linkParams (r : Reality) (choice : Option Choice) :
    ((r.linkParams choice).map (·.1)).Sublist linkNames := by
  cases choice with
  | none =>
    show List.Sublist ["security"] linkNames
    decide
  | some choice =>
    have whole := (((((names_optionalParam "sni" choice.serverName).append
      (names_optionalParam "pbk" r.publicKey)).append
      (names_optionalParam "sid" choice.shortId)).append
      (names_nonemptyParam "fp" r.fingerprint)).append
      (names_nonemptyParam "pqv" r.mldsa65Verify)).append (List.Sublist.refl ["spx"])
    have fields : ((r.fields choice).map (·.1)).Sublist
        ["sni", "pbk", "sid", "fp", "pqv", "spx"] := by
      simpa [fields] using whole
    exact fields.cons_cons "security"

namespace Link

variable {p : Protocol} {i : Inbound} {c : Client} {choice : Option Reality.Choice}

theorem names_encryptionParams (p : Protocol) (settings : Settings) :
    ((encryptionParams p settings).map (·.1)).Sublist ["encryption"] := by
  unfold encryptionParams
  split
  · exact names_optionalParam _ _
  · exact List.nil_sublist _

theorem names_flowParams (p : Protocol) (s : Stream) (c : Client) :
    ((flowParams p s c).map (·.1)).Sublist ["flow"] := by
  unfold flowParams
  split
  · exact names_nonemptyParam _ _
  · exact List.nil_sublist _

theorem names_securityParams (p : Protocol) (s : Stream) (choice : Option Reality.Choice) :
    ∃ names ∈ [Tls.linkNames, Reality.linkNames],
      ((securityParams p s choice).map (·.1)).Sublist names := by
  unfold securityParams
  split
  · exact ⟨_, by simp, s.tls.names_linkParams⟩
  split
  · exact ⟨_, by simp, s.reality.names_linkParams choice⟩
  · refine ⟨Tls.linkNames, by simp, ?_⟩
    show List.Sublist ["security"] Tls.linkNames
    decide

theorem names_params (p : Protocol) (i : Inbound) (c : Client) (choice : Option Reality.Choice) :
    ∃ names ∈ [Tls.linkNames, Reality.linkNames],
      ((params p i c choice).map (·.1)).Sublist
        ("type" :: ["encryption"] ++ Transport.linkNames ++ names ++ ["flow"]) := by
  obtain ⟨names, known, security⟩ := names_securityParams p i.stream choice
  refine ⟨names, known, ?_⟩
  simp only [params, List.map_append, List.map_cons]
  exact ((((names_encryptionParams p i.settings).cons_cons "type").append
    i.stream.names_transportParams).append security).append (names_flowParams p i.stream c)

theorem nodup_params (p : Protocol) (i : Inbound) (c : Client) (choice : Option Reality.Choice) :
    ((params p i c choice).map (·.1)).Nodup := by
  have apart : ∀ names ∈ [Tls.linkNames, Reality.linkNames],
      ("type" :: ["encryption"] ++ Transport.linkNames ++ names ++ ["flow"]).Nodup := by decide
  obtain ⟨names, known, whole⟩ := names_params p i c choice
  exact whole.nodup (apart names known)

theorem names_forced (force : String) (ps : Params) :
    ((forced force ps).map (·.1)).Sublist (ps.map (·.1)) := by
  have kept : ((if force = "none" then ps.filter fun field => !tlsNames.contains field.1
      else ps).map (·.1)).Sublist (ps.map (·.1)) := by
    split
    · exact List.filter_sublist.map _
    · exact List.Sublist.refl _
  unfold forced
  dsimp only
  split
  · exact kept
  · rw [List.map_map]
    exact kept

/-- What is told besides that which only goes with TLS. -/
def stripped {α : Type} (told : List (String × α)) : List (String × α) :=
  told.filter fun (name, _) => !tlsNames.contains name

/-- What goes with TLS is left out by an endpoint without security, be it a parameter or a field. -/
theorem lookup_stripped {α : Type} (force name : String) (told : List (String × α)) :
    (if force = "none" then stripped told else told).lookup name =
      if force = "none" ∧ name ∈ tlsNames then none else told.lookup name := by
  split
  · next none =>
    rw [stripped, lookup_filter_name (fun other => !tlsNames.contains other)]
    simp [none, ite_not]
  · next some => simp [some]

/-- An endpoint replaces the security if it has one of its own, and leaves out what goes with TLS if
it has none. -/
theorem lookup_forced (force name : String) (ps : Params) :
    (forced force ps).lookup name =
      if force = "none" ∧ name ∈ tlsNames then none
      else (ps.lookup name).map fun value =>
        if name = "security" ∧ force ≠ "same" then force else value := by
  have kept := lookup_stripped force name ps
  unfold stripped at kept
  unfold forced
  dsimp only
  split
  · next same =>
    rw [kept]
    simp [same]
  · next other =>
    rw [lookup_map_named (fun name value => if name = "security" then force else value), kept]
    by_cases left : force = "none" ∧ name ∈ tlsNames
    · rw [if_pos left, if_pos left, Option.map_none]
    · simp [if_neg left, other]

theorem lookup_params (p : Protocol) (i : Inbound) (c : Client) (choice : Option Reality.Choice)
    (name : String) :
    (params p i c choice).lookup name =
      ((((if name = "type" then some i.stream.network else none).or
        ((encryptionParams p i.settings).lookup name)).or
        (i.stream.transportParams.lookup name)).or
        ((securityParams p i.stream choice).lookup name)).or
        ((flowParams p i.stream c).lookup name) := by
  rw [params, List.lookup_append, List.lookup_append, List.lookup_append, ← List.singleton_append,
    List.lookup_append, lookup_singleton]

theorem lookup_securityParams_eq_none {name : String}
    (other : name ∉ Tls.linkNames ∧ name ∉ Reality.linkNames) :
    (securityParams p i.stream choice).lookup name = none := by
  obtain ⟨names, known, sub⟩ := names_securityParams p i.stream choice
  refine lookup_eq_none_of_sublist sub ?_
  rcases List.mem_cons.mp known with rfl | known
  · exact other.1
  · rw [List.mem_singleton.mp known]
    exact other.2

theorem lookup_params_type : (params p i c choice).lookup "type" = some i.stream.network := by
  rw [lookup_params]
  rfl

/-- What a transport can say in a query, only the transport says. -/
theorem lookup_params_transport {name : String} (h : name ∈ Transport.linkNames) :
    (params p i c choice).lookup name = i.stream.transportParams.lookup name := by
  have apart : ∀ name ∈ Transport.linkNames, (name ≠ "type" ∧ name ∉ ["encryption"]) ∧
      (name ∉ Tls.linkNames ∧ name ∉ Reality.linkNames) ∧ name ∉ ["flow"] := by decide
  obtain ⟨⟨type, encryption⟩, security, flow⟩ := apart name h
  rw [lookup_params, if_neg type,
    lookup_eq_none_of_sublist (names_encryptionParams p i.settings) encryption,
    lookup_securityParams_eq_none security,
    lookup_eq_none_of_sublist (names_flowParams p i.stream c) flow]
  simp

/-- What the security can say in a query, only the security says. -/
theorem lookup_params_security {name : String}
    (h : name ∈ Tls.linkNames ∨ name ∈ Reality.linkNames) :
    (params p i c choice).lookup name = (securityParams p i.stream choice).lookup name := by
  have apart : ∀ name ∈ Tls.linkNames ++ Reality.linkNames, (name ≠ "type" ∧
      name ∉ ["encryption"]) ∧ name ∉ Transport.linkNames ∧ name ∉ ["flow"] := by decide
  obtain ⟨⟨type, encryption⟩, transport, flow⟩ := apart name (List.mem_append.mpr h)
  rw [lookup_params, if_neg type,
    lookup_eq_none_of_sublist (names_encryptionParams p i.settings) encryption,
    lookup_eq_none_of_sublist i.stream.names_transportParams transport,
    lookup_eq_none_of_sublist (names_flowParams p i.stream c) flow]
  simp

theorem forced_params_ne_nil (force : String) (p : Protocol) (i : Inbound) (c : Client)
    (choice : Option Reality.Choice) : forced force (params p i c choice) ≠ [] := by
  have network : ("type", i.stream.network) ∈
      (if force = "none" then (params p i c choice).filter fun field => !tlsNames.contains field.1
        else params p i c choice) := by
    split
    · exact List.mem_filter.mpr ⟨by simp [params], by simp [tlsNames]⟩
    · simp [params]
  unfold forced
  dsimp only
  split
  · exact List.ne_nil_of_mem network
  · exact List.ne_nil_of_mem (List.mem_map_of_mem network)

end Link
end ShareLinks
