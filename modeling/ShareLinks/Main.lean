import ShareLinks.CommandLine.Run
import ShareLinks.Host.Basic
import Std.Time.DateTime.Timestamp

/-!
The command line program: it gathers what a command has around it, runs the command, and writes
what it leaves behind, as the entry point of `xraylink.__main__` does. Only what a command needs
is read: its record, and standard input if that is where the record is.
-/

namespace ShareLinks.CommandLine

def variableNames : List String :=
  ["XRAYLINK_REMARK_SEPARATOR", "XRAYLINK_SHOW_INFO", "XRAYLINK_DEFAULT_ADDRESS",
    "XRAYLINK_LOG_LEVEL"]

def readConfig : IO Config := do
  let values ← variableNames.mapM fun name => return (name, ← IO.getEnv name)
  return Config.ofEnvironment fun name => (values.lookup name).join

def systemReasons : List (Nat × String) :=
  [(2, "No such file or directory"), (13, "Permission denied"), (20, "Not a directory"),
    (21, "Is a directory"), (36, "File name too long")]

/-- The number of a system's error, which some calls report negated. -/
def systemCode (code : UInt32) : Nat :=
  min code.toNat (0x100000000 - code.toNat)

def readError (e : IO.Error) : ReadError :=
  let error (code : UInt32) (details : String) : ReadError :=
    ⟨systemCode code, (systemReasons.lookup (systemCode code)).getD details⟩
  match e with
  | .noFileOrDirectory _ code details => error code details
  | .permissionDenied _ code details => error code details
  | .inappropriateType _ code details => error code details
  | .invalidArgument _ code details => error code details
  | .resourceExhausted _ code details => error code details
  | .otherError code details => error code details
  | e => ⟨5, e.toString⟩

def readFile (path : String) : IO FileContent := do
  try
    let content ← IO.FS.readBinFile path
    return .ok content.toList
  catch e => return .error (readError e)

/-- The path of the record that a command line names, if it names one. -/
def recordPath? (config : Config) (words : List String) : Option String :=
  match read config words with
  | .ok ⟨_, .link path _ _ _⟩ => some path
  | _ => none

def currentTime : IO Number := do
  let nanoseconds := (← Std.Time.Timestamp.now).toNanosecondsSinceUnixEpoch.val
  return match Binary64.ofQuotient? nanoseconds 1000000000 with
    | some seconds => .float seconds
    | none => .int (nanoseconds / 1000000000)

/-- How many random words are fetched: more than any command draws. -/
def randomWords : Nat := 64

def wordsOfBytes : List UInt8 → List Nat
  | a :: b :: c :: d :: rest =>
    (((a.toNat * 256 + b.toNat) * 256 + c.toNat) * 256 + d.toNat) :: wordsOfBytes rest
  | _ => []

def systemSource : IO Source := do
  let bytes ← IO.getRandomBytes (4 * randomWords).toUSize
  return Source.ofWords (wordsOfBytes bytes.toList)

def surroundings (words : List String) : IO Surroundings := do
  let config ← readConfig
  let path := (recordPath? config words).getD ""
  let input ← if path = "-" then (← IO.getStdin).readToEnd else pure ""
  let content ← readFile path
  return {
    config, file := fun _ => content, input
    now := ← currentTime, source := ← systemSource, urls := Host.library }

end ShareLinks.CommandLine

open ShareLinks in
def main (words : List String) : IO UInt32 := do
  let around ← CommandLine.surroundings words
  if let .error .misuse := CommandLine.read around.config words then
    IO.eprint CommandLine.usage
  let outcome := CommandLine.run around words
  for notice in outcome.notices do
    IO.eprintln (notice.level.name ++ ": " ++ notice.text)
  match outcome.result with
  | .ok exit =>
    IO.print exit.output
    return exit.code.toUInt32
  | .error fault =>
    IO.eprintln fault.message
    return 1
