import ShareLinks.CommandLine.Arguments
import ShareLinks.Notice

/-!
Running a command: `read_record`, `cmd_link`, `cmd_client` and `main` of `xraylink.__main__`,
from the words of a command line and what they refer to, to an exit code, the output and the
notices. A link is made from a record in a file or on standard input; the record may be wrapped
in the answer of a panel, under `obj`. Failures of decoding, and of protocols that have no
clients, end in a notice and an exit code; all others are left to the caller.
-/

namespace ShareLinks.CommandLine

/-- Why a file is not read: the number of the system's error, and its wording. -/
structure ReadError where
  code : Nat
  reason : String

abbrev FileContent := Except ReadError (List UInt8)

structure Surroundings where
  config : Config
  file : String → FileContent
  input : String
  now : Number
  source : Source
  urls : UrlLibrary

structure Exit where
  code : Nat
  output : String
  deriving DecidableEq

/-- What a command leaves behind: its end, unless it fails in a way that it does not report, the
notices until then, and the random source. -/
structure Outcome where
  result : Except Fault Exit
  notices : List Notice
  source : Source

/-- Text with every line end, of whatever kind, as a single character. -/
def unifyLines : List Char → List Char
  | '\r' :: '\n' :: rest => '\n' :: unifyLines rest
  | '\r' :: rest => '\n' :: unifyLines rest
  | c :: rest => c :: unifyLines rest
  | [] => []

def recordText (around : Surroundings) (path : String) : Except Fault (List Char) :=
  if path = "-" then .ok around.input.toList
  else if path.toList.contains '\x00' then .error .nullInPath
  else match around.file path with
    | .error e =>
      .error (.undecodable "record"
        (.other ("[Errno " ++ numeral e.code ++ "] " ++ e.reason ++ ": " ++ quote path)))
    | .ok bytes =>
      match Text.Utf8.decode bytes with
      | .ok cs => .ok (unifyLines cs)
      | .error fault => .error (.notUtf8 fault)

/-- The record in a document: what is wrapped in it, if anything is. -/
def unwrap (doc : Json) : Json :=
  let inner := doc.field "obj"
  if inner.isObject then inner else doc

def readRecord (around : Surroundings) (path : String) : Except Fault Json := do
  let cs ← recordText around path
  let doc ← Blob.decodeText "record" cs
  pure (unwrap doc)

def isReported : Fault → Bool
  | .undecodable _ _ => true
  | .unsupportedProtocol _ => true
  | _ => false

def errorNotice (text : String) : Notice where
  level := .error
  origin := "xraylink"
  text

def fail (fault : Fault) (notices : List Notice) (source : Source) : Outcome :=
  if isReported fault then ⟨.ok ⟨1, ""⟩, notices ++ [errorNotice fault.message], source⟩
  else ⟨.error fault, notices, source⟩

/-- How remarks are written, where the command says whether they are annotated. -/
def manner (around : Surroundings) (showInfo : Bool) : Link.Manner where
  separator := around.config.separator
  showInfo
  now := around.now
  urls := around.urls

def printed (text : String) : String :=
  text ++ "\n"

/-- A word that may be left out, as a message shows it. -/
def shown (word : Option String) : String :=
  (word.map quote).getD "[]"

/-- The line of a link to the server itself when its address is left out: a description holds an
empty list in its place, and a URI cannot be written. -/
def placelessLine (p : Protocol) (i : Inbound) (c : Client) (manner : Link.Manner) :
    Except Fault String := do
  let remark ← i.remarkText manner c.email ""
  match p with
  | .vmess =>
    Link.Vmess.render
      (Link.Vmess.set "add" (.array []) (Link.Vmess.description i c { port := i.port } remark))
  | _ => throw .hostLeftOut

/-- The link for a client when the address of the server is left out, which no endpoint needs. -/
def placelessLink (i : Inbound) (manner : Link.Manner) (email : String) (source : Source) :
    Except Fault String × Source :=
  match i.protocol?, i.settings.find? email with
  | some p, some c =>
    if i.stream.endpoints.isEmpty then
      (placelessLine p i c manner, (Link.choose p i.stream source).2)
    else i.link manner "" email source
  | _, _ => (.ok "", source)

/-- The link for the client with an email; no client has one that is left out. -/
def linkFor (i : Inbound) (manner : Link.Manner) (address email : Option String)
    (source : Source) : Except Fault String × Source :=
  match email, address with
  | none, _ => (.ok "", source)
  | some email, none => placelessLink i manner email source
  | some email, some address => i.link manner address email source

def linkNotices (i : Inbound) (email : Option String) : List Notice :=
  match email with
  | some email => Notice.ofLink i email
  | none => if i.protocol?.isSome then [Notice.noClient i (shown none)] else [Notice.noFormat i]

def runLink (around : Surroundings) (path : String) (email address : Option String)
    (showInfo : Bool) : Outcome :=
  match readRecord around path with
  | .error fault => fail fault [] around.source
  | .ok doc =>
    let record := Record.ofJson doc
    match Inbound.ofRecord record with
    | .error fault => fail fault (Notice.ofRecord record) around.source
    | .ok i =>
      let notices := Notice.ofRecord record ++ linkNotices i email
      match linkFor i (manner around showInfo) address email around.source with
      | (.error fault, source) => fail fault notices source
      | (.ok link, source) =>
        if link.isEmpty then
          let text := "No link for client " ++ shown email ++ " (protocol " ++
            (doc.field "protocol").displayed ++ ")"
          ⟨.ok ⟨2, ""⟩, notices ++ [errorNotice text], source⟩
        else ⟨.ok ⟨0, printed link⟩, notices, source⟩

/-- The stored form of a new client; a field that is left out is stored as an empty list. -/
def clientJson (c : Client) (leftOut : List String) : Json :=
  .object (leftOut.foldl (fun fields name => Fields.put name (.array []) fields) c.toJson.fields)

def runClient (around : Surroundings) (protocol email : String) (limits : Client.Limits)
    (leftOut : List String) : Outcome :=
  match Client.generate protocol email limits around.now around.source with
  | (.error fault, source) => fail fault [] source
  | (.ok c, source) =>
    match (clientJson c leftOut).write Json.pretty with
    | .error fault => fail fault [] source
    | .ok text => ⟨.ok ⟨0, printed text⟩, [], source⟩

def Command.run (around : Surroundings) : Command → Outcome
  | link record email address showInfo => runLink around record email address showInfo
  | client protocol email limits leftOut => runClient around protocol email limits leftOut

def usage : String :=
  "usage: xray-link [-h] [--log-level LOG_LEVEL] \x7blink,client\x7d ...\n"

/-- Runs a command line. Only notices of the level that it asks for, or of a higher one, are
given. -/
def run (around : Surroundings) (words : List String) : Outcome :=
  match read around.config words with
  | .error .help => ⟨.ok ⟨0, usage⟩, [], around.source⟩
  | .error .misuse => ⟨.ok ⟨2, ""⟩, [], around.source⟩
  | .ok ⟨none, _⟩ => ⟨.error .levelLeftOut, [], around.source⟩
  | .ok ⟨some level, command⟩ =>
    match Level.threshold? level with
    | none => ⟨.error (.unknownLevel level), [], around.source⟩
    | some threshold =>
      let outcome := command.run around
      { outcome with notices := Notice.atLeast threshold outcome.notices }

end ShareLinks.CommandLine
