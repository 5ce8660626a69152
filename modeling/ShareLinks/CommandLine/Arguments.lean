import ShareLinks.Config
import ShareLinks.Enrolment
import ShareLinks.Text.Numeral

/-!
The words of a command line, as the parser of `build_parser` of `xraylink.__main__` takes them.
Options are named in full or by a beginning that only one of them has; a value follows behind an
equals sign or as the next word. Behind a double hyphen no word is an option. A word that begins
with a hyphen is still a plain word if it is a negative number or holds a space. A double hyphen
in the place of a value leaves the value out.

Words that fit nowhere make a command line invalid, but only at its end: a request for help
before that is answered. The commands and their options are at the end of the module.
-/

namespace ShareLinks.CommandLine

inductive Stop where
  | help
  | misuse
  deriving DecidableEq

inductive Arity where
  | help
  | flag
  | value (accepts : String → Bool)

abbrev Options := List (String × Arity)

inductive Word where
  | plain
  | separator
  | option (name : String) (given : Option String)
  | unknown
  | ambiguous
  deriving DecidableEq

/-- A negative number, with or without a point; a line end may follow. -/
def isNegativeNumber (cs : List Char) : Bool :=
  let isDecimal (c : Char) := (Text.decimalValue? c).isSome
  match cs with
  | '-' :: rest =>
    let rest := if rest.getLast? = some '\n' then rest.dropLast else rest
    let fraction := (rest.dropWhile isDecimal).drop 1
    let whole := !rest.isEmpty && rest.all isDecimal
    let pointed := (rest.dropWhile isDecimal).head? == some '.' && !fraction.isEmpty &&
      fraction.all isDecimal
    whole || pointed
  | _ => false

def splitValue (word : String) : String × Option String :=
  let cs := word.toList
  let name := cs.takeWhile (· != '=')
  match cs.dropWhile (· != '=') with
  | [] => (word, none)
  | _ :: value => (String.ofList name, some (String.ofList value))

/-- The options that a word in hyphens may mean. A single hyphen only introduces the short name
for help, with more letters behind it. -/
def meanings (options : Options) (word : String) : List (String × Option String) :=
  if "--".isPrefixOf word then
    let (begun, given) := splitValue word
    (options.filter fun (name, _) => begun.isPrefixOf name).map fun (name, _) => (name, given)
  else if "-h".isPrefixOf word then [("-h", some (String.ofList (word.toList.drop 2)))]
  else []

def classify (options : Options) (word : String) : Word :=
  let named (name : String) := (options.lookup name).isSome
  let (name, value) := splitValue word
  if word = "--" then .separator
  else if word.toList.head? ≠ some '-' then .plain
  else if named word then .option word none
  else if word = "-" then .plain
  else if value.isSome && named name then .option name value
  else match meanings options word with
    | [(name, given)] => .option name given
    | _ :: _ :: _ => .ambiguous
    | [] =>
      if isNegativeNumber word.toList || word.toList.contains ' ' then .plain else .unknown

def classifyAll (options : Options) (words : List String) : List (String × Word) :=
  let before := words.takeWhile (· != "--")
  before.map (fun w => (w, classify options w)) ++
    match words.drop before.length with
    | [] => []
    | w :: after => (w, .separator) :: after.map fun w => (w, .plain)

/-- What the words of a command say: options with their values in order and plain words, of which
any may be left out, and whether any word fits nowhere. -/
structure Found where
  options : List (String × Option String) := []
  words : List (Option String) := []
  unrecognized : Bool := false

/-- Help takes no value, but its short form may be given several times in one word. -/
def helpAnswer (name : String) (given : Option String) : Stop :=
  match given with
  | none => .help
  | some rest =>
    if name = "-h" && !rest.isEmpty && rest.toList.all (· == 'h') then .help else .misuse

/-- How far the words of a command are read: how many plain words it still takes, whether the last
word was one that it took, whether a separator stands before the next one, which option waits for
its value, and what was found. -/
structure Progress where
  missing : Nat
  taken : Bool := false
  loose : Bool := false
  pending : Option (String × (String → Bool)) := none
  found : Found := {}

namespace Progress

/-- Keeps the value of an option if the option accepts it; one that is left out is not asked. -/
def give (p : Progress) (name : String) (accepts : String → Bool) (value : String) :
    Except Stop Progress :=
  let kept := if value = "--" then none else some value
  if kept.all accepts then
    .ok { p with
      taken := false
      pending := none
      found := { p.found with options := p.found.options ++ [(name, kept)] } }
  else .error .misuse

def refuse (p : Progress) : Progress :=
  { p with taken := false, found := { p.found with unrecognized := true } }

/-- Takes a plain word if one is missing. A second double hyphen leaves the word out, unless the
first one is still loose. -/
def take (p : Progress) (w : String) : Progress :=
  match p.missing with
  | 0 => p.refuse
  | missing + 1 =>
    let word := if w = "--" && !p.loose then none else some w
    { p with
      missing
      taken := true
      loose := false
      found := { p.found with words := p.found.words ++ [word] } }

def step (options : Options) (p : Progress) : String × Word → Except Stop Progress
  | (w, word) =>
    match p.pending, word with
    | some (name, accepts), .plain => p.give name accepts w
    | some _, _ => .error .misuse
    | none, .plain => .ok (p.take w)
    | none, .separator => .ok { p with taken := false, loose := !p.taken }
    | none, .unknown => .ok p.refuse
    | none, .ambiguous => .error .misuse
    | none, .option name given =>
      match options.lookup name, given with
      | some .flag, none => p.give name (fun _ => true) ""
      | some (.value accepts), some value => p.give name accepts value
      | some (.value accepts), none =>
        .ok { p with taken := false, pending := some (name, accepts) }
      | some .help, _ => .error (helpAnswer name given)
      | _, _ => .error .misuse

/-- What was found when the words are at their end. A separator has to stand beside a plain word
that was taken. -/
def finish (p : Progress) : Except Stop Found :=
  if p.missing ≠ 0 || p.pending.isSome then .error .misuse
  else .ok { p.found with unrecognized := p.found.unrecognized || p.loose }

end Progress

/-- The value that an option was given last, none in it if it was left out then. -/
def Found.value? (found : Found) (name : String) : Option (Option String) :=
  found.options.reverse.lookup name

def readWords (options : Options) (count : Nat) (words : List String) : Except Stop Found :=
  let classified := classifyAll options words
  if classified.any fun (_, word) => word = .ambiguous then .error .misuse
  else do
    let progress ← classified.foldlM (Progress.step options) { missing := count }
    progress.finish

/-- What a command line asks for. The fields of a new client that were left out are named. -/
inductive Command where
  | link (record : String) (email address : Option String) (showInfo : Bool)
  | client (protocol email : String) (limits : Client.Limits) (leftOut : List String)

structure Invocation where
  logLevel : Option String
  command : Command

def helpOptions : Options :=
  [("-h", .help), ("--help", .help)]

def anyValue : Arity :=
  .value fun _ => true

def wholeNumber : Arity :=
  .value fun s => (Text.readWord s.toList).isSome

def mainOptions : Options :=
  helpOptions ++ [("--log-level", anyValue)]

def linkOptions : Options :=
  helpOptions ++ [("--address", anyValue), ("--show-info", .flag)]

def clientOptions : Options :=
  helpOptions ++ [("--total-gb", wholeNumber), ("--expiry-time", wholeNumber),
    ("--limit-ip", wholeNumber), ("--tg-id", wholeNumber), ("--sub-id", anyValue)]

def Found.first (found : Found) : String :=
  (found.words.getD 0 none).getD ""

def Found.second? (found : Found) : Option String :=
  found.words.getD 1 none

def Found.number (found : Found) (name : String) : Number :=
  .int (((found.value? name).join.bind fun s => Text.readWord s.toList).getD 0)

def clientFields : List (String × String) :=
  [("--total-gb", "totalGB"), ("--expiry-time", "expiryTime"), ("--limit-ip", "limitIp"),
    ("--tg-id", "tgId"), ("--sub-id", "subId")]

def Found.leftOut (found : Found) : List String :=
  (if found.second?.isNone then ["email"] else []) ++
    (clientFields.filter fun (option, _) => found.value? option == some none).map (·.2)

/-- Reads a command by its name. The flag says whether some word before it fitted nowhere. -/
def readCommand (config : Config) (unrecognized : Bool) (name : String) (words : List String) :
    Except Stop Command := do
  let (options, command) ← match name with
    | "link" =>
      pure (linkOptions, fun (found : Found) =>
        Command.link found.first found.second?
          ((found.value? "--address").getD (some config.address))
          (config.showInfo || (found.value? "--show-info").isSome))
    | "client" =>
      pure (clientOptions, fun (found : Found) =>
        Command.client found.first (found.second?.getD "")
          { totalGigabytes := found.number "--total-gb"
            expiryTime := found.number "--expiry-time"
            limitIp := found.number "--limit-ip"
            telegramId := found.number "--tg-id"
            subscriptionId := (found.value? "--sub-id").join.getD "" }
          found.leftOut)
    | _ => throw .misuse
  let found ← readWords options 2 words
  if unrecognized || found.unrecognized then throw .misuse
  pure (command found)

def readFrom (config : Config) (level : Option String) (unrecognized : Bool) :
    List String → Except Stop Invocation
  | [] => .error .misuse
  | word :: rest =>
    match classify mainOptions word with
    | .plain => (readCommand config unrecognized word rest).map fun command => ⟨level, command⟩
    | .unknown => readFrom config level true rest
    | .option "--log-level" (some value) =>
      readFrom config (if value = "--" then none else some value) unrecognized rest
    | .option "--log-level" none =>
      match rest with
      | value :: rest =>
        if classify mainOptions value = .plain then readFrom config (some value) unrecognized rest
        else .error .misuse
      | [] => .error .misuse
    | .option name given => .error (helpAnswer name given)
    | _ => .error .misuse

def read (config : Config) (words : List String) : Except Stop Invocation :=
  if (classifyAll mainOptions words).any fun (_, word) => word = .ambiguous then .error .misuse
  else (readFrom config (some config.logLevel) false words).map fun invocation =>
    { invocation with
      logLevel := invocation.logLevel.map fun level => String.ofList (Text.upper level.toList) }

end ShareLinks.CommandLine
