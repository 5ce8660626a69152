import ShareLinks.Json.Writing
import ShareLinks.Link.Basic

/-!
New clients. `generate_client_defaults` of `xraylink.client` makes one for a protocol, with a
fresh credential and stamped with the time of its making; `add_client_with_link` enrols it: it
adds it to an inbound, and gives its link and the settings to store. Enrolling adds the client
before it writes the link and then the settings, so where one of them cannot be written the
client has been added all the same.
-/

namespace ShareLinks

namespace Client

def gigabyte : Nat := 1024 * 1024 * 1024

def passwordLength : Nat := 32

def subscriptionIdLength : Nat := 16

structure Limits where
  totalGigabytes : Number := .int 0
  expiryTime : Number := .int 0
  limitIp : Number := .int 0
  telegramId : Number := .int 0
  subscriptionId : String := ""

/-- Gives a client a fresh credential of the kind that its protocol has. -/
def withCredential (c : Client) (p : Protocol) (source : Source) : Client × Source :=
  match p with
  | .vmess =>
    let (id, source) := source.identifier
    ({ c with id, security := "auto" }, source)
  | .vless =>
    let (id, source) := source.identifier
    ({ c with id }, source)
  | .trojan | .shadowsocks =>
    let (password, source) := source.letters passwordLength
    ({ c with password }, source)

def blank (email : String) (limits : Limits) (madeAt : Int) : Client :=
  { email
    limitIp := limits.limitIp
    totalBytes := limits.totalGigabytes.scale gigabyte
    expiryTime := limits.expiryTime
    telegramId := limits.telegramId
    subscriptionId := limits.subscriptionId
    createdAt := madeAt
    updatedAt := madeAt }

/-- A new client for the protocol of a name. Nothing is drawn unless it can be made. -/
def generate (protocol email : String) (limits : Limits) (now : Number) (source : Source) :
    Except Fault Client × Source :=
  match now.milliseconds with
  | .error fault => (.error fault, source)
  | .ok madeAt =>
    match Protocol.ofName? protocol with
    | none => (.error (.unsupportedProtocol protocol), source)
    | some p =>
      let (c, source) := (blank email limits madeAt).withCredential p source
      (.ok c, source)

end Client

structure Enrolment where
  link : String
  credential : String
  email : String
  settings : String
  deriving DecidableEq

namespace Inbound

/-- Enrols a new client, as `add_client_with_link` does: the outcome, the inbound as it is
afterwards, and the random source. -/
def enrol (i : Inbound) (manner : Link.Manner) (address email : String) (source : Source) :
    Except Fault Enrolment × Inbound × Source :=
  let (subscriptionId, source) := source.letters Client.subscriptionIdLength
  match Client.generate i.protocol email { subscriptionId } manner.now source with
  | (.error fault, source) => (.error fault, i, source)
  | (.ok c, source) =>
    let enrolled := { i with settings := i.settings.add c }
    let (link, source) := enrolled.link manner address email source
    let outcome := do
      let link ← link
      let settings ← enrolled.settings.toJson.write Json.compact
      pure { link, credential := c.credential, email, settings : Enrolment }
    (outcome, enrolled, source)

end Inbound
end ShareLinks
