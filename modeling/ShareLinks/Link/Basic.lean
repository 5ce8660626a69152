import ShareLinks.Link.Uri
import ShareLinks.Link.Vmess

/-!
Links to an inbound for one of its clients: `genLink` of `xraylink.inbound`, and `genVmessLink`,
`genVLESSLink`, `genTrojanLink`, `genSSLink` and `_gen_uri_links` as one function of the
protocol. A link has one line for the server itself or, where the stream names endpoints in front
of it, one for each of them; if any line cannot be written the link fails with the failure of the
first. There is no link, and nothing is drawn, for a protocol without links or for an email
without a client.
-/

namespace ShareLinks

namespace Link

/-- How the lines of a link are written: their remarks, by the arguments `show_info` and `now` of
the functions that make links, and their URLs. -/
structure Manner extends Remark.Manner where
  urls : UrlLibrary

instance : Coe Manner Remark.Manner := ⟨Manner.toManner⟩

def targets (i : Inbound) (address : String) : List Endpoint :=
  if i.stream.endpoints.isEmpty then [{ dest := address, port := i.port }] else i.stream.endpoints

/-- The scheme of the URI links of a protocol. -/
def scheme : Protocol → String
  | .shadowsocks => "ss"
  | p => p.name

/-- What a shadowsocks client signs in with. Ciphers whose name starts with `2` take the password
of the inbound beside that of the client. -/
def shadowsocksSecret (s : Settings) (c : Client) : String :=
  if s.method.toList.head? = some '2' then s.method ++ ":" ++ s.password ++ ":" ++ c.password
  else s.method ++ ":" ++ c.password

def credential (p : Protocol) (s : Settings) (c : Client) : String :=
  match p with
  | .trojan => c.password
  | .shadowsocks =>
    String.ofList (Text.Base64.encode (Text.Utf8.encode (shadowsocksSecret s c).toList))
  | _ => c.id

def uriParts (p : Protocol) (i : Inbound) (c : Client) (choice : Option Reality.Choice)
    (e : Endpoint) (remark : String) : UriParts :=
  { scheme := scheme p
    credential := credential p i.settings c
    host := e.dest
    port := e.port
    query := forced e.forceTls (params p i c choice)
    remark }

def line (p : Protocol) (i : Inbound) (c : Client) (choice : Option Reality.Choice)
    (manner : Manner) (e : Endpoint) : Except Fault String := do
  let remark ← i.remarkText manner c.email e.remark
  match p with
  | .vmess => Vmess.render (Vmess.description i c e remark)
  | _ => (uriParts p i c choice e remark).render manner.urls

def lines (p : Protocol) (i : Inbound) (c : Client) (choice : Option Reality.Choice)
    (manner : Manner) (address : String) : Except Fault (List String) :=
  (targets i address).mapM (line p i c choice manner)

end Link

namespace Inbound

/-- The link for the client with an email, if the inbound has the given protocol; empty if there
is none. -/
def linkOf (p : Protocol) (i : Inbound) (manner : Link.Manner) (address email : String)
    (source : Source) : Except Fault String × Source :=
  if i.protocol = p.name then
    match i.settings.find? email with
    | none => (.ok "", source)
    | some c =>
      let (choice, source) := Link.choose p i.stream source
      ((Link.lines p i c choice manner address).map (String.intercalate "\n"), source)
  else (.ok "", source)

/-- The link for the client with an email, in the form of the protocol of the inbound. -/
def link (i : Inbound) (manner : Link.Manner) (address email : String) (source : Source) :
    Except Fault String × Source :=
  match i.protocol? with
  | none => (.ok "", source)
  | some p => i.linkOf p manner address email source

end Inbound
end ShareLinks
