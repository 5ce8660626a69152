import ShareLinks.Json.Field
import ShareLinks.Json.Printer

/-!
Clients of an inbound and their stored form: `Client` of `xraylink.settings`, its `credential`,
`from_json` and `to_json`. A client signs in with its id or with its password; of the stored
fields only these two and the security are left out when they are empty. The limits of a client
that was read are integers; those of a new one are what was asked for.
-/

namespace ShareLinks

structure Client where
  email : String := ""
  id : String := ""
  password : String := ""
  security : String := ""
  flow : String := ""
  enable : Bool := true
  limitIp : Number := .int 0
  totalBytes : Number := .int 0
  expiryTime : Number := .int 0
  telegramId : Number := .int 0
  subscriptionId : String := ""
  comment : String := ""
  reset : Int := 0
  createdAt : Int := 0
  updatedAt : Int := 0
  deriving DecidableEq

namespace Client

/-- What the client signs in with: the id of protocols that have one, and the password of the
others. -/
def credential (c : Client) : String :=
  if c.id.isEmpty then c.password else c.id

def ofJson (doc : Json) : Except Fault Client := do
  let limitIp ← (doc.field "limitIp").integerOrZero
  let totalBytes ← (doc.field "totalGB").integerOrZero
  let expiryTime ← (doc.field "expiryTime").integerOrZero
  let telegramId ← (doc.field "tgId").integerOrZero
  let reset ← (doc.field "reset").integerOrZero
  let createdAt ← (doc.field "created_at").integerOrZero
  let updatedAt ← (doc.field "updated_at").integerOrZero
  pure
    { email := (doc.field "email").stringOr ""
      id := (doc.field "id").stringOr ""
      password := (doc.field "password").stringOr ""
      security := (doc.field "security").stringOr ""
      flow := (doc.field "flow").stringOr ""
      enable := (doc.field "enable").boolOr true
      limitIp := .int limitIp
      totalBytes := .int totalBytes
      expiryTime := .int expiryTime
      telegramId := .int telegramId
      subscriptionId := (doc.field "subId").stringOr ""
      comment := (doc.field "comment").stringOr ""
      reset
      createdAt
      updatedAt }

def nonemptyField (name value : String) : Fields :=
  if value.isEmpty then [] else [(name, .string value)]

def toJson (c : Client) : Json :=
  .object <|
    [("email", .string c.email)] ++ nonemptyField "id" c.id ++
      nonemptyField "password" c.password ++ nonemptyField "security" c.security ++
      [("flow", .string c.flow), ("enable", .bool c.enable), ("limitIp", c.limitIp.toJson),
        ("totalGB", c.totalBytes.toJson), ("expiryTime", c.expiryTime.toJson),
        ("tgId", c.telegramId.toJson), ("subId", .string c.subscriptionId),
        ("comment", .string c.comment), ("reset", .int c.reset), ("created_at", .int c.createdAt),
        ("updated_at", .int c.updatedAt)]

end Client
end ShareLinks
