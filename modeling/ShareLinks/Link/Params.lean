import ShareLinks.Inbound

/-!
The parameters in the query of a link: `_link_params` and `_proxy_params` of `xraylink.inbound`.
They come one group after another: the network, the encryption, the transport, the security, and
the flow. No name occurs in two groups, so nothing is overwritten.
-/

namespace ShareLinks.Link

def carriesReality (p : Protocol) : Bool :=
  p == .vless || p == .trojan

/-- Draws what the links of an inbound take from the random source. It is drawn once, however
many lines a link has. -/
def choose (p : Protocol) (s : Stream) (source : Source) : Option Reality.Choice × Source :=
  if s.isReality && carriesReality p then s.reality.chooseIfPresent source
  else (none, source)

def encryptionParams (p : Protocol) (settings : Settings) : Params :=
  if p = .vless then optionalParam "encryption" settings.encryption else []

def securityParams (p : Protocol) (s : Stream) (choice : Option Reality.Choice) : Params :=
  if s.isTls then s.tls.linkParams
  else if s.isReality && carriesReality p then s.reality.linkParams choice
  else [("security", "none")]

/-- Whether links of a protocol carry a flow over a stream. -/
def carriesFlow (p : Protocol) (s : Stream) : Bool :=
  s.network == "tcp" &&
    match p with
    | .vless => s.isTls || s.isReality
    | .trojan => s.isReality
    | _ => false

def flowParams (p : Protocol) (s : Stream) (c : Client) : Params :=
  if carriesFlow p s then nonemptyParam "flow" c.flow else []

def params (p : Protocol) (i : Inbound) (c : Client) (choice : Option Reality.Choice) : Params :=
  ("type", i.stream.network) :: encryptionParams p i.settings ++ i.stream.transportParams ++
    securityParams p i.stream choice ++ flowParams p i.stream c

/-- The parameters that only go with TLS. -/
def tlsNames : List String :=
  ["alpn", "sni", "fp", "allowInsecure"]

/-- The parameters behind an endpoint that puts its own security in front: `_proxy_params`. -/
def forced (force : String) (ps : Params) : Params :=
  let kept := if force = "none" then ps.filter fun (name, _) => !tlsNames.contains name else ps
  if force = "same" then kept
  else kept.map fun (name, value) => (name, if name = "security" then force else value)

end ShareLinks.Link
