import ShareLinks.Json.Search
import ShareLinks.Source
import ShareLinks.Stream.Transport

/-!
What a client has to know of the security of a stream: `TlsStreamSettings` and
`RealityStreamSettings` of `xraylink.stream`. The fields are looked for at any depth of their
documents, since panels nest them differently; some of them only below the first field named
`settings`.
-/

namespace ShareLinks

/-- The client's part of TLS settings; `none` for what is not given. -/
structure Tls where
  serverName : Option String := none
  alpn : List String := []
  fingerprint : Option String := none
  allowInsecure : Option Bool := none
  deriving DecidableEq

structure Reality where
  present : Bool := false
  serverNames : List String := []
  shortIds : List String := []
  publicKey : Option String := none
  fingerprint : String := ""
  mldsa65Verify : String := ""
  deriving DecidableEq

/-- A parameter that is there if its value is. -/
def optionalParam (name : String) (value : Option String) : Params :=
  value.toList.map fun v => (name, v)

/-- A parameter that is there if its value is not empty. -/
def nonemptyParam (name value : String) : Params :=
  if value.isEmpty then [] else [(name, value)]

namespace Tls

def ofJson (value : Json) : Tls :=
  let doc := Json.object value.fields
  let inner := doc.search "settings"
  { serverName := (doc.search "serverName").string?
    alpn := (doc.field "alpn").strings
    fingerprint := (inner.search "fingerprint").string?
    allowInsecure := (inner.search "allowInsecure").bool? }

def alpnText (t : Tls) : String :=
  String.intercalate "," t.alpn

/-- What both kinds of link say of the connection: protocols, server name and fingerprint. -/
def commonParams (t : Tls) : Params :=
  (if t.alpn.isEmpty then [] else [("alpn", t.alpnText)]) ++
    optionalParam "sni" t.serverName ++ optionalParam "fp" t.fingerprint

/-- The parameters of a link; only the permission to skip verification is worth mentioning. -/
def linkParams (t : Tls) : Params :=
  ("security", "tls") :: t.commonParams ++
    if t.allowInsecure = some true then [("allowInsecure", "1")] else []

/-- The fields of a vmess description, the permission in either case. -/
def vmessFields (t : Tls) : Fields :=
  t.commonParams.map (fun (name, value) => (name, .string value)) ++
    t.allowInsecure.toList.map fun b => ("allowInsecure", .bool b)

end Tls

namespace Reality

def ofJson (doc : Json) : Reality :=
  if doc.isObject then
    let inner := doc.search "settings"
    { present := true
      serverNames := (doc.search "serverNames").strings
      shortIds := (doc.search "shortIds").strings
      publicKey := (inner.search "publicKey").string?
      fingerprint := (inner.search "fingerprint").stringOr ""
      mldsa65Verify := (inner.search "mldsa65Verify").stringOr "" }
  else {}

/-- What a link takes from the random source: one of the server names, one of the short ids, and
a path to crawl. -/
structure Choice where
  serverName : Option String
  shortId : Option String
  spiderPath : String
  deriving DecidableEq

def spiderLength : Nat := 15

def chooseFrom (items : List String) (s : Source) : Option String × Source :=
  let (chosen, s) := s.pick items
  (chosen.toOption, s)

def choose (r : Reality) (s : Source) : Choice × Source :=
  let (serverName, s) := chooseFrom r.serverNames s
  let (shortId, s) := chooseFrom r.shortIds s
  let (path, s) := s.letters spiderLength
  (⟨serverName, shortId, "/" ++ path⟩, s)

def fields (r : Reality) (choice : Choice) : Params :=
  optionalParam "sni" choice.serverName ++ optionalParam "pbk" r.publicKey ++
    optionalParam "sid" choice.shortId ++ nonemptyParam "fp" r.fingerprint ++
    nonemptyParam "pqv" r.mldsa65Verify ++ [("spx", choice.spiderPath)]

/-- The parameters of a link; settings that are not there add nothing to their name, and draw
nothing. -/
def linkParams (r : Reality) (choice : Option Choice) : Params :=
  ("security", "reality") :: (choice.map r.fields).getD []

def chooseIfPresent (r : Reality) (s : Source) : Option Choice × Source :=
  if r.present then
    let (choice, s) := r.choose s
    (some choice, s)
  else (none, s)

end Reality
end ShareLinks
