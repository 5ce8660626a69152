import ShareLinks.Json.Display
import ShareLinks.Link.Basic

/-!
Notices: what the library has to say beside its results, through the loggers of `xraylink.stream`
and `xraylink.inbound`. Each has a level and a part of the library that it comes from.
-/

namespace ShareLinks

inductive Level where
  | debug
  | info
  | warning
  | error
  | critical
  deriving DecidableEq

namespace Level

def name : Level → String
  | debug => "DEBUG"
  | info => "INFO"
  | warning => "WARNING"
  | error => "ERROR"
  | critical => "CRITICAL"

def severity : Level → Nat
  | debug => 10
  | info => 20
  | warning => 30
  | error => 40
  | critical => 50

/-- The least severity that a name lets through. -/
def threshold? (name : String) : Option Nat :=
  [("CRITICAL", 50), ("FATAL", 50), ("ERROR", 40), ("WARN", 30), ("WARNING", 30), ("INFO", 20),
    ("DEBUG", 10), ("NOTSET", 0)].lookup name

end Level

structure Notice where
  level : Level
  origin : String
  text : String
  deriving DecidableEq

namespace Notice

def atLeast (threshold : Nat) (notices : List Notice) : List Notice :=
  notices.filter fun n => threshold ≤ n.level.severity

def skippedEndpoint (index : Nat) (value : Json) : Notice where
  level := .warning
  origin := "xraylink.stream"
  text := "Skipping malformed externalProxy entry #" ++ numeral index ++ ": " ++ value.displayed

def ofStream (doc : Json) : List Notice :=
  (Stream.skipped doc).map fun (index, value) => skippedEndpoint index value

def ofRecord (r : Record) : List Notice :=
  (Inbound.skippedEndpoints r).map fun (index, value) => skippedEndpoint index value

/-- An email, as a message shows it, that no client has. -/
def noClient (i : Inbound) (shown : String) : Notice where
  level := .debug
  origin := "xraylink.inbound"
  text := "No client " ++ shown ++ " in inbound " ++ String.ofList (integerText i.id) ++
    " (" ++ i.protocol ++ ")"

def noFormat (i : Inbound) : Notice where
  level := .debug
  origin := "xraylink.inbound"
  text := "No link format for protocol " ++ quote i.protocol

def ofSearch (i : Inbound) (email : String) : List Notice :=
  if (i.settings.find? email).isSome then [] else [noClient i (quote email)]

def ofLinkOf (p : Protocol) (i : Inbound) (email : String) : List Notice :=
  if i.protocol = p.name then ofSearch i email else []

def ofLink (i : Inbound) (email : String) : List Notice :=
  match i.protocol? with
  | none => [noFormat i]
  | some _ => ofSearch i email

end Notice
end ShareLinks
