import ShareLinks.Proofs.Link.Parameters

/-!
# Lines straight to a server, and lines made from them

A line straight to a server is written of its address and its port. A line through an endpoint can
be made from it: something is left out of what was to be written, and the place, the security and
the remark are set anew. It is the line that is written for the endpoint.
-/

namespace ShareLinks.Link

/-- What a description says of a connection straight to a server, in the order in which its fields
are set. -/
def Vmess.directAssignments (i : Inbound) (c : Client) (address : String) (port : Int)
    (remark : String) : Fields :=
  [("v", .string "2"), ("add", .string address), ("port", .int port), ("type", .string "none"),
      ("net", .string i.stream.network)] ++
    i.stream.vmessFields.map (fun (name, value) => (name, .string value)) ++
    [("tls", .string (Vmess.securityName i.stream))] ++
    (if i.stream.isTls then i.stream.tls.vmessFields else []) ++
    [("id", .string c.id), ("scy", .string (if c.security.isEmpty then "auto" else c.security)),
      ("ps", .string remark)]

/-- The parts of a URI link straight to a server. -/
def directParts (p : Protocol) (i : Inbound) (c : Client) (choice : Option Reality.Choice)
    (address : String) (port : Int) (remark : String) : UriParts :=
  { scheme := scheme p
    credential := credential p i.settings c
    host := address
    port
    query := params p i c choice
    remark }

/-- The line that leads straight to a server: its security is that of the stream, and its remark
names the inbound and the client alone. -/
def directLine (p : Protocol) (i : Inbound) (c : Client) (choice : Option Reality.Choice)
    (manner : Manner) (address : String) (port : Int) : Except Fault String := do
  let remark ← i.remarkText manner c.email ""
  match p with
  | .vmess =>
    Vmess.render (Vmess.setAll [] (Vmess.directAssignments i c address port remark))
  | _ => (directParts p i c choice address port remark).render manner.urls

namespace Vmess

theorem assignments_same (i : Inbound) (c : Client) (address : String) (port : Int)
    (remark : String) :
    assignments i c { dest := address, port } remark =
      directAssignments i c address port remark := by
  have tells : tlsFields i.stream "same" =
      if i.stream.isTls then i.stream.tls.vmessFields else [] := by
    simp [tlsFields]
  rw [assignments, tells, directAssignments, if_pos rfl]

/-- Turns the description of a connection straight to a server into that of one through an endpoint:
what the endpoint takes away is left out, and what it has of its own is set. -/
def redirect (e : Endpoint) (remark : String) (fields : Fields) : Fields :=
  let kept := if e.forceTls = "none" then stripped fields else fields
  let placed :=
    setAll kept [("ps", .string remark), ("add", .string e.dest), ("port", .int e.port)]
  if e.forceTls = "same" then placed else set "tls" (.string e.forceTls) placed

theorem IsOrdered.redirect {fields : Fields} (h : IsOrdered fields) (e : Endpoint)
    (remark : String) : IsOrdered (redirect e remark fields) := by
  have kept : IsOrdered (if e.forceTls = "none" then stripped fields else fields) := by
    split
    · exact List.Pairwise.filter _ h
    · exact h
  unfold Vmess.redirect
  dsimp only
  split
  · exact isOrdered_setAll kept _
  · exact (isOrdered_setAll kept _).set _ _

/-- What is said under each name behind an endpoint, in terms of what was said in front of it. -/
def redirected (e : Endpoint) (remark : String) (told : String → Option Json) (name : String) :
    Option Json :=
  if name = "tls" ∧ e.forceTls ≠ "same" then some (.string e.forceTls)
  else if name = "port" then some (.int e.port)
  else if name = "add" then some (.string e.dest)
  else if name = "ps" then some (.string remark)
  else if e.forceTls = "none" ∧ name ∈ tlsNames then none
  else told name

theorem lookup_redirect (e : Endpoint) (remark name : String) (fields : Fields) :
    (redirect e remark fields).lookup name = redirected e remark (fields.lookup ·) name := by
  have placed (kept : Fields) :
      (setAll kept [("ps", .string remark), ("add", .string e.dest), ("port", .int e.port)]).lookup
        name = if name = "port" then some (.int e.port) else if name = "add" then
          some (.string e.dest) else if name = "ps" then some (.string remark)
        else kept.lookup name := by
    rw [setAll, List.foldl_cons, List.foldl_cons, List.foldl_cons, List.foldl_nil, lookup_set,
      lookup_set, lookup_set]
  unfold redirect redirected
  dsimp only
  split
  · next same =>
    rw [placed, lookup_stripped]
    simp [same]
  · next other =>
    rw [lookup_set, placed, lookup_stripped]
    simp [other]

/-- What is intended for an endpoint, in terms of what is intended for the server. -/
theorem intended_eq_redirected (i : Inbound) (c : Client) (e : Endpoint) (remark : String)
    (address old : String) (port : Int) (name : String) :
    intended i c e remark name =
      redirected e remark (intended i c { dest := address, port } old) name := by
  have settings : lineTls? i.stream e =
      if e.forceTls = "none" then none
      else lineTls? i.stream { dest := address, port } := by
    by_cases none : e.forceTls = "none"
    · simp [lineTls?, none]
    · simp [lineTls?, none]
  unfold redirected
  fun_cases intended i c e remark name
  case case6 =>
    by_cases same : e.forceTls = "same"
    · simp [same, intended, lineSecurity, tlsNames]
    · simp [same, lineSecurity]
  case case7 | case8 | case9 | case10 =>
    by_cases none : e.forceTls = "none"
    · simp [settings, none, tlsNames]
    · simp [settings, none, intended]
  case case14 v add port net type tls alpn sni fp allowInsecure id scy ps =>
    have kept : name ∉ tlsNames := by
      simpa [tlsNames] using ⟨alpn, sni, fp, allowInsecure⟩
    rw [if_neg fun h => tls h.1, if_neg port, if_neg add, if_neg ps, if_neg fun h => kept h.2]
    simp [intended]
  all_goals simp [intended, tlsNames]

/-- Taken away from a description afterwards or never set, what an endpoint changes is the same. -/
theorem description_eq_redirect (i : Inbound) (c : Client) (e : Endpoint) (remark : String)
    (address old : String) (port : Int) :
    description i c e remark =
      redirect e remark (setAll [] (directAssignments i c address port old)) := by
  rw [← assignments_same]
  apply (isOrdered_setAll List.Pairwise.nil _).ext
    ((isOrdered_setAll List.Pairwise.nil _).redirect e remark)
  intro name
  have direct : (setAll [] (assignments i c { dest := address, port } old)).lookup name = _ :=
    lookup_description_eq i c { dest := address, port } old name
  have told : (setAll [] (assignments i c e remark)).lookup name = _ :=
    lookup_description_eq i c e remark name
  rw [told, intended_eq_redirected i c e remark address old port, lookup_redirect, redirected,
    redirected, direct]

end Vmess

/-- The line through an endpoint, made from what was to be written for the server. -/
def relayedLine (p : Protocol) (i : Inbound) (c : Client) (choice : Option Reality.Choice)
    (manner : Manner) (address : String) (e : Endpoint) : Except Fault String := do
  let remark ← i.remarkText manner c.email e.remark
  match p with
  | .vmess =>
    Vmess.render (Vmess.redirect e remark
      (Vmess.setAll [] (Vmess.directAssignments i c address i.port "")))
  | _ =>
    let direct := directParts p i c choice address i.port remark
    { direct with host := e.dest, port := e.port, query := forced e.forceTls direct.query }.render
      manner.urls

variable {p : Protocol} {i : Inbound} {c : Client} {choice : Option Reality.Choice}
  {manner : Manner}

/-- An endpoint that changes nothing has the line of a server at its place. -/
theorem line_same (address : String) (port : Int) :
    line p i c choice manner { dest := address, port } =
      directLine p i c choice manner address port := by
  have unforced (ps : Params) : forced "same" ps = ps := rfl
  unfold line directLine
  cases p with
  | vmess => simp only [Vmess.description, Vmess.assignments_same]
  | vless | trojan | shadowsocks => simp only [uriParts, unforced, directParts]

theorem line_eq_relayedLine (address : String) (e : Endpoint) :
    line p i c choice manner e = relayedLine p i c choice manner address e := by
  unfold line relayedLine
  cases p with
  | vmess => simp only [Vmess.description_eq_redirect i c e _ address "" i.port]
  | vless | trojan | shadowsocks => rfl

end ShareLinks.Link
