import ShareLinks.Json.Writing
import ShareLinks.Link.Params
import ShareLinks.Text.Base64

/-!
Links of vmess, as `genVmessLink` and `_vmess_uri` of `xraylink.inbound` write them: a
description of the connection as a JSON object with its fields in the order of their names,
indented, in base64.
-/

namespace ShareLinks.Link.Vmess

/-- Sets a field among fields in the order of their names. -/
def set (name : String) (value : Json) : Fields → Fields
  | [] => [(name, value)]
  | (other, old) :: rest =>
    if name = other then (name, value) :: rest
    else if name < other then (name, value) :: (other, old) :: rest
    else (other, old) :: set name value rest

def setAll (fields : Fields) (new : Fields) : Fields :=
  new.foldl (fun fields (name, value) => set name value fields) fields

def securityName (s : Stream) : String :=
  if s.isTls || s.isReality then s.security else "none"

/-- The fields that only go with TLS; an endpoint without security leaves them out. -/
def tlsFields (s : Stream) (force : String) : Fields :=
  if s.isTls && force != "none" then s.tls.vmessFields else []

/-- The description of a connection to an endpoint, in the order in which its fields are set. -/
def assignments (i : Inbound) (c : Client) (e : Endpoint) (remark : String) : Fields :=
  [("v", .string "2"), ("add", .string e.dest), ("port", .int e.port),
      ("type", .string "none"), ("net", .string i.stream.network)] ++
    i.stream.vmessFields.map (fun (name, value) => (name, .string value)) ++
    [("tls", .string (if e.forceTls = "same" then securityName i.stream else e.forceTls))] ++
    tlsFields i.stream e.forceTls ++
    [("id", .string c.id), ("scy", .string (if c.security.isEmpty then "auto" else c.security)),
      ("ps", .string remark)]

def description (i : Inbound) (c : Client) (e : Endpoint) (remark : String) : Fields :=
  setAll [] (assignments i c e remark)

def style : Json.Style := ⟨true, false⟩

def render (fields : Fields) : Except Fault String := do
  let text ← (Json.object fields).write style
  pure (String.ofList ("vmess://".toList ++ Text.Base64.encode (Text.Utf8.encode text.toList)))

end ShareLinks.Link.Vmess
