import ShareLinks.Inbound
import ShareLinks.Json.Writing

/-!
The stored text of the objects of a record: `to_string` of `XrayCommonClass` of `xraylink.util`.
Clients and settings are written back; inbounds, streams and traffic records are only ever read,
and have none.
-/

namespace ShareLinks

/-- An object that may be asked for its stored text. -/
inductive Stored where
  | client (c : Client)
  | settings (s : Settings)
  | inbound (i : Inbound)
  | stream (s : Stream)
  | traffic (t : Traffic)
  /-- An object of no kind. -/
  | blank

def Stored.text (style : Json.Style) : Stored → Except Fault String
  | client c => c.toJson.write style
  | settings s => s.toJson.write style
  | _ => .error .notWritten

end ShareLinks
