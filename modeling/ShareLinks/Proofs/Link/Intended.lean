import ShareLinks.Proofs.Link.Lines

/-!
# What links are meant to say

The targets that a link is meant to have lines for, and what queries and descriptions are meant to
say of the transport of a stream, written down network by network. Links have these lines, and both
kinds of them say this.
-/

namespace ShareLinks.Link

/-- The lines of a link say something of their targets, place by place: a single one of the address
and the port of the server, unless there are endpoints in front of it. -/
def ForEachTarget (i : Inbound) (address : String) (Says : Endpoint → List Char → Prop)
    (lines : List (List Char)) : Prop :=
  (i.stream.endpoints = [] → ∃ line, lines = [line] ∧
    Says { forceTls := "same", dest := address, port := i.port, remark := "" } line) ∧
  (i.stream.endpoints ≠ [] → List.Forall₂ Says i.stream.endpoints lines)

theorem forEachTarget_of_targets {i : Inbound} {address : String}
    {Says : Endpoint → List Char → Prop} {lines : List (List Char)}
    (h : List.Forall₂ Says (targets i address) lines) : ForEachTarget i address Says lines := by
  constructor
  · intro none
    rw [targets, none, List.isEmpty_nil, if_pos rfl] at h
    obtain ⟨line, rest, said, nothing, rfl⟩ := List.forall₂_cons_left_iff.mp h
    rw [List.forall₂_nil_left_iff.mp nothing]
    exact ⟨line, rfl, said⟩
  · intro some
    rwa [targets, List.isEmpty_eq_false_iff.mpr some, if_neg Bool.false_ne_true] at h

/-- A host that is given counts before one among the headers. -/
def routeParams (t : HttpRoute) : Params :=
  [("path", t.path), ("host", if t.givenHost = "" then Header.host t.headers else t.givenHost)]

/-- What a query is meant to say of the transport. -/
def transportQuery (s : Stream) : Params :=
  match s.network with
  | "tcp" =>
    if s.tcp.headerType = "http" then
      [("path", s.tcp.paths.head?.getD ""), ("host", Header.host s.tcp.headers),
        ("headerType", "http")]
    else []
  | "kcp" => [("headerType", s.kcp.headerType), ("seed", s.kcp.seed)]
  | "ws" => routeParams s.webSocket
  | "grpc" =>
    [("serviceName", s.grpc.serviceName), ("authority", s.grpc.authority.getD "")] ++
      if s.grpc.multiMode = true then [("mode", "multi")] else []
  | "httpupgrade" => routeParams s.httpUpgrade
  | "xhttp" => routeParams s.xhttp.toHttpRoute ++ [("mode", s.xhttp.mode)]
  | _ => []

/-- What a description is meant to say of the transport. -/
def transportFields (s : Stream) : Params :=
  match s.network with
  | "tcp" =>
    if s.tcp.headerType = "http" then
      [("type", "http"), ("path", s.tcp.paths.head?.getD ""), ("host", Header.host s.tcp.headers)]
    else [("type", s.tcp.headerType)]
  | "kcp" => [("type", s.kcp.headerType), ("path", s.kcp.seed)]
  | "ws" => routeParams s.webSocket
  | "grpc" =>
    [("path", s.grpc.serviceName), ("authority", s.grpc.authority.getD "")] ++
      if s.grpc.multiMode = true then [("type", "multi")] else []
  | "httpupgrade" => routeParams s.httpUpgrade
  | "xhttp" => routeParams s.xhttp.toHttpRoute ++ [("mode", s.xhttp.mode)]
  | _ => []

theorem host_eq (t : HttpRoute) :
    t.host = if t.givenHost = "" then Header.host t.headers else t.givenHost := by
  simp [HttpRoute.host]

theorem linkParams_route (t : HttpRoute) : t.linkParams = routeParams t := by
  rw [HttpRoute.linkParams, routeParams, host_eq]

theorem linkParams_xhttp (t : XHttp) :
    t.linkParams = routeParams t.toHttpRoute ++ [("mode", t.mode)] := by
  rw [XHttp.linkParams, routeParams, host_eq]
  rfl

theorem transportParams_eq (s : Stream) : s.transportParams = transportQuery s := by
  rw [Stream.transportParams, transportQuery]
  split
  case h_1 network =>
    simp [Stream.transport?, network, Transport.linkParams, Tcp.linkParams, Tcp.path, Tcp.host]
  case h_2 network => simp [Stream.transport?, network, Transport.linkParams, Kcp.linkParams]
  case h_3 network => simp [Stream.transport?, network, Transport.linkParams, linkParams_route]
  case h_4 network => simp [Stream.transport?, network, Transport.linkParams, Grpc.linkParams]
  case h_5 network => simp [Stream.transport?, network, Transport.linkParams, linkParams_route]
  case h_6 network => simp [Stream.transport?, network, Transport.linkParams, linkParams_xhttp]
  case h_7 tcp kcp ws grpc httpUpgrade xhttp =>
    rw [Stream.transport?, if_neg tcp, if_neg kcp, if_neg ws, if_neg grpc, if_neg httpUpgrade,
      if_neg xhttp]
    rfl

theorem vmessFields_eq (s : Stream) : s.vmessFields = transportFields s := by
  rw [Stream.vmessFields, transportFields]
  split
  case h_1 network =>
    by_cases http : s.tcp.headerType = "http"
    · simp [Stream.transport?, network, Transport.vmessFields, Tcp.vmessFields, http, Tcp.path,
        Tcp.host]
    · simp [Stream.transport?, network, Transport.vmessFields, Tcp.vmessFields, http]
  case h_2 network => simp [Stream.transport?, network, Transport.vmessFields, Kcp.vmessFields]
  case h_3 network => simp [Stream.transport?, network, Transport.vmessFields, linkParams_route]
  case h_4 network => simp [Stream.transport?, network, Transport.vmessFields, Grpc.vmessFields]
  case h_5 network => simp [Stream.transport?, network, Transport.vmessFields, linkParams_route]
  case h_6 network => simp [Stream.transport?, network, Transport.vmessFields, linkParams_xhttp]
  case h_7 tcp kcp ws grpc httpUpgrade xhttp =>
    rw [Stream.transport?, if_neg tcp, if_neg kcp, if_neg ws, if_neg grpc, if_neg httpUpgrade,
      if_neg xhttp]
    rfl

end ShareLinks.Link
