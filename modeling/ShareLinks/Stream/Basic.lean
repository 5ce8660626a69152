import ShareLinks.Stream.Security

/-!
Streams: `StreamSettings` and `ExternalProxy` of `xraylink.stream`, the network side of an
inbound. A stream has settings for every transport and for both kinds of security, of which its
network and its security say which are in use; and it may name endpoints in front of the server,
each of which gets a line of its own in a link.
-/

namespace ShareLinks

/-- Where a line of a link points to, as `ExternalProxy` says it. The security that a proxy puts in
front replaces that of the stream unless it is `same`. -/
structure Endpoint where
  forceTls : String := "same"
  dest : String := ""
  port : Int := 0
  remark : String := ""
  deriving DecidableEq

def Endpoint.ofJson? (doc : Json) : Except Fault (Option Endpoint) :=
  if doc.isObject then do
    let force := (doc.field "forceTls").stringOr ""
    let port ← (doc.field "port").integerOrZero
    pure (some
      { forceTls := if force.isEmpty then "same" else force
        dest := (doc.field "dest").stringOr ""
        port
        remark := (doc.field "remark").stringOr "" })
  else pure none

def Endpoint.listOfJson (values : List Json) : Except Fault (List Endpoint) := do
  let found ← values.mapM Endpoint.ofJson?
  pure (found.filterMap id)

structure Stream where
  network : String := ""
  security : String := "none"
  tcp : Tcp := {}
  kcp : Kcp := {}
  webSocket : HttpRoute := {}
  grpc : Grpc := {}
  httpUpgrade : HttpRoute := {}
  xhttp : XHttp := {}
  tls : Tls := {}
  reality : Reality := {}
  endpoints : List Endpoint := []
  deriving DecidableEq

namespace Stream

def ofJson (doc : Json) : Except Fault Stream := do
  let endpoints ← Endpoint.listOfJson (doc.field "externalProxy").items
  pure
    { network := (doc.field "network").stringOr ""
      security := (doc.field "security").stringOr "none"
      tcp := Tcp.ofJson (doc.field "tcpSettings")
      kcp := Kcp.ofJson (doc.field "kcpSettings")
      webSocket := HttpRoute.ofJson (doc.field "wsSettings")
      grpc := Grpc.ofJson (doc.field "grpcSettings")
      httpUpgrade := HttpRoute.ofJson (doc.field "httpupgradeSettings")
      xhttp := XHttp.ofJson (doc.field "xhttpSettings")
      tls := Tls.ofJson (doc.field "tlsSettings")
      reality := Reality.ofJson (doc.field "realitySettings")
      endpoints }

/-- The places and values of the entries that are passed over as no endpoints, up to the first
that cannot be read at all. -/
def skippedFrom (index : Nat) : List Json → List (Nat × Json)
  | [] => []
  | value :: rest =>
    match Endpoint.ofJson? value with
    | .error _ => []
    | .ok (some _) => skippedFrom (index + 1) rest
    | .ok none => (index, value) :: skippedFrom (index + 1) rest

def skipped (doc : Json) : List (Nat × Json) :=
  skippedFrom 0 (doc.field "externalProxy").items

def isTls (s : Stream) : Bool :=
  s.security == "tls"

def isReality (s : Stream) : Bool :=
  s.security == "reality"

/-- The transport in use, if the network is one that is known. -/
def transport? (s : Stream) : Option Transport :=
  if s.network = "tcp" then some (.tcp s.tcp)
  else if s.network = "kcp" then some (.kcp s.kcp)
  else if s.network = "ws" then some (.webSocket s.webSocket)
  else if s.network = "grpc" then some (.grpc s.grpc)
  else if s.network = "httpupgrade" then some (.httpUpgrade s.httpUpgrade)
  else if s.network = "xhttp" then some (.xhttp s.xhttp)
  else none

/-- The transports in the order of their names in a document. -/
def transports (s : Stream) : List Transport :=
  [.tcp s.tcp, .kcp s.kcp, .webSocket s.webSocket, .grpc s.grpc, .httpUpgrade s.httpUpgrade,
    .xhttp s.xhttp]

def transportParams (s : Stream) : Params :=
  (s.transport?.map Transport.linkParams).getD []

def vmessFields (s : Stream) : Params :=
  (s.transport?.map Transport.vmessFields).getD []

end Stream
end ShareLinks
