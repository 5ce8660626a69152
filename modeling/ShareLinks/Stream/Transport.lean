import ShareLinks.Header

/-!
Transports: how the connection of a client is carried, by `TcpStreamSettings`,
`KcpStreamSettings`, `WsStreamSettings`, `GrpcStreamSettings`, `HttpUpgradeStreamSettings` or
`XHttpStreamSettings` of `xraylink.stream`. Each has its settings in the document of a stream and
contributes parameters to a link and fields to a vmess description.
-/

namespace ShareLinks

/-- Named values in the order in which a link writes them. -/
abbrev Params := List (String × String)

/-- Plain TCP, which may be dressed up as an HTTP request. -/
structure Tcp where
  headerType : String := "none"
  paths : List String := []
  headers : List Header := []
  deriving DecidableEq

structure Kcp where
  headerType : String := "none"
  seed : String := ""
  deriving DecidableEq

/-- The path and host of a transport that starts as an HTTP request. -/
structure HttpRoute where
  path : String := ""
  givenHost : String := ""
  headers : List Header := []
  deriving DecidableEq

structure XHttp extends HttpRoute where
  mode : String := ""
  deriving DecidableEq

structure Grpc where
  serviceName : String := ""
  authority : Option String := none
  multiMode : Bool := false
  deriving DecidableEq

namespace Tcp

def ofJson (doc : Json) : Tcp :=
  let header := doc.field "header"
  let request := header.field "request"
  { headerType := (header.field "type").stringOr "none"
    paths := (request.field "path").strings
    headers := Header.listOfJson (request.field "headers") }

def path (t : Tcp) : String :=
  t.paths.head?.getD ""

def host (t : Tcp) : String :=
  Header.host t.headers

def linkParams (t : Tcp) : Params :=
  if t.headerType = "http" then [("path", t.path), ("host", t.host), ("headerType", "http")]
  else []

def vmessFields (t : Tcp) : Params :=
  ("type", t.headerType) ::
    if t.headerType = "http" then [("path", t.path), ("host", t.host)] else []

end Tcp

namespace Kcp

def ofJson (doc : Json) : Kcp :=
  { headerType := ((doc.field "header").field "type").stringOr "none"
    seed := (doc.field "seed").stringOr "" }

def linkParams (t : Kcp) : Params :=
  [("headerType", t.headerType), ("seed", t.seed)]

def vmessFields (t : Kcp) : Params :=
  [("type", t.headerType), ("path", t.seed)]

end Kcp

namespace HttpRoute

def ofJson (doc : Json) : HttpRoute :=
  { path := (doc.field "path").stringOr ""
    givenHost := (doc.field "host").stringOr ""
    headers := Header.listOfJson (doc.field "headers") }

/-- The host that is given, and the host header when none is. -/
def host (t : HttpRoute) : String :=
  if t.givenHost.isEmpty then Header.host t.headers else t.givenHost

def linkParams (t : HttpRoute) : Params :=
  [("path", t.path), ("host", t.host)]

end HttpRoute

namespace XHttp

def ofJson (doc : Json) : XHttp :=
  { HttpRoute.ofJson doc with mode := (doc.field "mode").stringOr "" }

def linkParams (t : XHttp) : Params :=
  [("path", t.path), ("host", t.host), ("mode", t.mode)]

end XHttp

namespace Grpc

def ofJson (doc : Json) : Grpc :=
  { serviceName := (doc.field "serviceName").stringOr ""
    authority := (doc.field "authority").string?
    multiMode := (doc.field "multiMode").boolOr false }

def linkParams (t : Grpc) : Params :=
  [("serviceName", t.serviceName), ("authority", t.authority.getD "")] ++
    if t.multiMode then [("mode", "multi")] else []

def vmessFields (t : Grpc) : Params :=
  [("path", t.serviceName), ("authority", t.authority.getD "")] ++
    if t.multiMode then [("type", "multi")] else []

end Grpc

inductive Transport where
  | tcp (settings : Tcp)
  | kcp (settings : Kcp)
  | webSocket (settings : HttpRoute)
  | grpc (settings : Grpc)
  | httpUpgrade (settings : HttpRoute)
  | xhttp (settings : XHttp)
  deriving DecidableEq

namespace Transport

def linkParams : Transport → Params
  | tcp t => t.linkParams
  | kcp t => t.linkParams
  | webSocket t => t.linkParams
  | grpc t => t.linkParams
  | httpUpgrade t => t.linkParams
  | xhttp t => t.linkParams

/-- The fields of a vmess description. Transports that start as an HTTP request say the same in
both. -/
def vmessFields : Transport → Params
  | tcp t => t.vmessFields
  | kcp t => t.vmessFields
  | webSocket t => t.linkParams
  | grpc t => t.vmessFields
  | httpUpgrade t => t.linkParams
  | xhttp t => t.linkParams

end Transport
end ShareLinks
