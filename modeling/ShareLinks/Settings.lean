import ShareLinks.Client

/-!
The settings of an inbound: `InboundSettings` and `find_client` of `xraylink.settings`. They are
its clients, the cipher and password of the inbound itself, and whatever else was stored beside
them, which is kept as it is and written back first.
-/

namespace ShareLinks

structure Settings where
  clients : List Client := []
  method : String := ""
  password : String := ""
  encryption : Option String := none
  extra : Fields := []

namespace Settings

def knownNames : List String :=
  ["clients", "method", "password", "encryption"]

def ofJson (doc : Json) : Except Fault Settings := do
  let clients ← ((doc.field "clients").items.filter Json.isObject).mapM Client.ofJson
  pure
    { clients
      method := (doc.field "method").stringOr ""
      password := (doc.field "password").stringOr ""
      encryption := (doc.field "encryption").string?
      extra := doc.fields.filter fun (name, _) => !knownNames.contains name }

def toJson (s : Settings) : Json :=
  .object <|
    s.extra ++ [("clients", .array (s.clients.map Client.toJson))] ++
      Client.nonemptyField "method" s.method ++ Client.nonemptyField "password" s.password ++
      s.encryption.toList.map fun encryption => ("encryption", .string encryption)

def indexOf? (s : Settings) (email : String) : Option Nat :=
  s.clients.findIdx? fun c => c.email == email

def find? (s : Settings) (email : String) : Option Client :=
  s.clients.find? fun c => c.email == email

/-- The settings with one more client, after the others. -/
def add (s : Settings) (c : Client) : Settings :=
  { s with clients := s.clients ++ [c] }

@[simp] theorem clients_add (s : Settings) (c : Client) : (s.add c).clients = s.clients ++ [c] :=
  rfl

/-- An email that is found is still found when a client is added, as the same client. -/
theorem find?_add_of_find? {s : Settings} {email : String} {c : Client}
    (h : s.find? email = some c) (new : Client) : (s.add new).find? email = some c := by
  simp only [find?] at h
  simp [find?, List.find?_append, h]

theorem email_of_find? {s : Settings} {email : String} {c : Client}
    (h : s.find? email = some c) : c.email = email := by
  simpa using List.find?_some h

end Settings
end ShareLinks
