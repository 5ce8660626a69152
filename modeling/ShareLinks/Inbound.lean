import ShareLinks.Remark
import ShareLinks.Settings
import ShareLinks.Stream.Basic

/-!
Inbounds and the records that they are stored in: `load_json_blob`, and `Inbound` of
`xraylink.inbound` with its `from_json` and `gen_remark`. The settings and the stream of a record
are stored as JSON text, as its bytes, or decoded already. Blank text, and a document that is no
object, count as an empty object; only text that is not JSON is refused.
-/

namespace ShareLinks

/-- A stored part of a record. -/
inductive Blob where
  | value (doc : Json)
  | bytes (content : List UInt8)

namespace Blob

def decodeText (field : String) (cs : List Char) : Except Fault Json :=
  if (Text.trim cs).isEmpty then .ok (.object [])
  else match Json.parse cs with
    | .ok doc => .ok (.object doc.fields)
    | .error refusal => .error (refusal.fault field)

def decode (field : String) : Blob → Except Fault Json
  | .value (.object fields) => .ok (.object fields)
  | .value (.string s) => decodeText field s.toList
  | .value _ => .ok (.object [])
  | .bytes content => decodeText field (Text.Utf8.decodeLossy content)

end Blob

/-- A record: the document, and the two parts of it that are decoded once more. -/
structure Record where
  doc : Json
  settings : Blob
  stream : Blob

namespace Record

def ofJson (doc : Json) : Record where
  doc
  settings := .value (doc.field "settings")
  stream := .value (doc.field "streamSettings")

def withSettings (r : Record) (text : String) : Record :=
  { r with settings := .value (.string text) }

end Record

inductive Protocol where
  | vmess
  | vless
  | trojan
  | shadowsocks
  deriving DecidableEq

namespace Protocol

def name : Protocol → String
  | vmess => "vmess"
  | vless => "vless"
  | trojan => "trojan"
  | shadowsocks => "shadowsocks"

def all : List Protocol :=
  [vmess, vless, trojan, shadowsocks]

/-- The protocol of a name, which has to be spelled exactly. -/
def ofName? (s : String) : Option Protocol :=
  all.find? fun p => p.name == s

theorem ofName?_eq_some_iff {s : String} {p : Protocol} : ofName? s = some p ↔ s = p.name := by
  constructor
  · intro h
    have h' : p.name = s := by simpa using List.find?_some h
    exact h'.symm
  · rintro rfl
    cases p <;> decide

end Protocol

/-- An inbound: one listening side of a server. -/
structure Inbound where
  id : Int := 0
  port : Int := 0
  protocol : String := "vmess"
  remark : String := ""
  settings : Settings := {}
  stream : Stream := {}
  stats : List Traffic := []

namespace Inbound

structure Front where
  id : Int
  port : Int
  settings : Settings
  streamDoc : Json

def readFront (r : Record) : Except Fault Front := do
  let settingsDoc ← r.settings.decode "settings"
  let streamDoc ← r.stream.decode "streamSettings"
  let id ← (r.doc.field "id").integerOrZero
  let port ← (r.doc.field "port").integerOrZero
  let settings ← Settings.ofJson settingsDoc
  pure { id, port, settings, streamDoc }

def ofRecord (r : Record) : Except Fault Inbound := do
  let front ← readFront r
  let stream ← Stream.ofJson front.streamDoc
  let stats ← ((r.doc.field "clientStats").items.filter Json.isObject).mapM Traffic.ofJson
  pure
    { id := front.id
      port := front.port
      protocol := (r.doc.field "protocol").stringOr ""
      remark := (r.doc.field "remark").stringOr ""
      settings := front.settings
      stream
      stats }

/-- The endpoint entries that reading a record passes over. -/
def skippedEndpoints (r : Record) : List (Nat × Json) :=
  match readFront r with
  | .ok front => Stream.skipped front.streamDoc
  | .error _ => []

def protocol? (i : Inbound) : Option Protocol :=
  Protocol.ofName? i.protocol

def remarkText (i : Inbound) (manner : Remark.Manner) (email extra : String) :
    Except Fault String :=
  Remark.text manner i.remark email extra i.stats

end Inbound
end ShareLinks
