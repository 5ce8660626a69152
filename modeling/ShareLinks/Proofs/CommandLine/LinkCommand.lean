import ShareLinks.Proofs.CommandLine.Words
import ShareLinks.Proofs.Link.Failures
import ShareLinks.Proofs.Regular

/-!
# How a link command ends

A link command ends in an exit code for a record that it can read: with the link, or with the
report that there is none, or that a part of the record is not what it should be. But it leaves
some failures to its caller: bytes that are not UTF-8, numerals that are too long, values that only
look like integers, and what is in the way of the lines of the link.
-/

namespace ShareLinks

namespace CommandLine

theorem not_isReported_of_numeralRefusal? {cs : List Char} {fault : Fault}
    (h : Text.numeralRefusal? cs = some fault) : isReported fault = false := by
  unfold Text.numeralRefusal? at h
  dsimp only at h
  split at h
  · cases h
    rfl
  split at h
  · cases h
    rfl
  split at h
  · cases h
  · cases h
    rfl

theorem not_isReported_of_refusal? {value : Json} {fault : Fault}
    (h : value.refusal? = some fault) : isReported fault = false := by
  unfold Json.refusal? at h
  split at h
  · cases h
    rfl
  · cases h
    rfl
  · split at h
    · exact not_isReported_of_numeralRefusal? h
    · cases h
  · cases h

theorem not_isReported_of_truncate {n : Number} {fault : Fault} (h : n.truncate = .error fault) :
    isReported fault = false := by
  unfold Number.truncate at h
  split at h
  · cases h
  · split at h
    · cases h
    · cases h
      rfl

theorem not_isReported_of_secondsOfMilliseconds {ms : Int} {fault : Fault}
    (h : secondsOfMilliseconds ms = .error fault) : isReported fault = false := by
  unfold secondsOfMilliseconds at h
  split at h
  · cases h
    rfl
  · exact not_isReported_of_truncate h

theorem not_isReported_of_quotaPart {t : Traffic} {fault : Fault}
    (h : Remark.quotaPart t = .error fault) : isReported fault = false := by
  unfold Remark.quotaPart at h
  split at h
  · rcases bind_eq_error_iff.mp h with amount | ⟨_, -, h⟩
    · rw [DataAmount.render, map_eq_error_iff, DataAmount.ofNumber] at amount
      split at amount
      · cases amount
      · cases amount
        rfl
    · cases h
  · cases h

theorem not_isReported_of_amount {n : Int} {unit : String} {fault : Fault}
    (h : Duration.amount n unit = .error fault) : isReported fault = false := by
  rw [Duration.amount, map_eq_error_iff, integerString] at h
  split at h
  · cases h
  · cases h
    rfl

theorem not_isReported_of_duration {seconds : Int} {fault : Fault}
    (h : Duration.render seconds = .error fault) : isReported fault = false := by
  unfold Duration.render at h
  dsimp only at h
  split at h
  · rcases bind_eq_error_iff.mp h with days | ⟨_, -, h⟩
    · exact not_isReported_of_amount days
    split at h
    · rcases bind_eq_error_iff.mp h with hours | ⟨_, -, h⟩
      · exact not_isReported_of_amount hours
      · cases h
    · cases h
  split at h
  · rcases bind_eq_error_iff.mp h with hours | ⟨_, -, h⟩
    · exact not_isReported_of_amount hours
    · cases h
  · rcases bind_eq_error_iff.mp h with minutes | ⟨_, -, h⟩
    · exact not_isReported_of_amount minutes
    · cases h

theorem not_isReported_of_timePart {t : Traffic} {now : Number} {fault : Fault}
    (h : Remark.timePart t now = .error fault) : isReported fault = false := by
  rcases bind_eq_error_iff.mp h with expiry | ⟨expiry, -, h⟩
  · exact not_isReported_of_secondsOfMilliseconds expiry
  split at h
  · rcases bind_eq_error_iff.mp h with now | ⟨_, -, h⟩
    · exact not_isReported_of_truncate now
    rcases bind_eq_error_iff.mp h with left | ⟨_, -, h⟩
    · exact not_isReported_of_duration left
    · cases h
  · split at h
    · rcases bind_eq_error_iff.mp h with whole | ⟨_, -, h⟩
      · exact not_isReported_of_duration whole
      · cases h
    · cases h

theorem not_isReported_of_remarkText {i : Inbound} {manner : Remark.Manner} {email extra : String}
    {fault : Fault} (h : i.remarkText manner email extra = .error fault) :
    isReported fault = false := by
  rw [Inbound.remarkText, Remark.text] at h
  dsimp only at h
  split at h
  · next t =>
    rcases bind_eq_error_iff.mp h with parts | ⟨_, -, h⟩
    · rw [Remark.annotated] at parts
      split at parts
      · rcases bind_eq_error_iff.mp parts with quota | ⟨_, -, parts⟩
        · exact not_isReported_of_quotaPart quota
        rcases bind_eq_error_iff.mp parts with time | ⟨_, -, parts⟩
        · exact not_isReported_of_timePart time
        · cases parts
      · cases parts
    · cases h
  · cases h

theorem not_isReported_of_foreign {fault : Fault}
    (foreign : (∀ field reason, fault ≠ .undecodable field reason) ∧
      ∀ name, fault ≠ .unsupportedProtocol name) : isReported fault = false := by
  unfold isReported
  split
  · next field reason => exact absurd rfl (foreign.1 field reason)
  · next name => exact absurd rfl (foreign.2 name)
  · rfl

/-- What is in the way of a link is not reported. -/
theorem not_isReported_of_isObstructed {i : Inbound} {manner : Link.Manner}
    {address email : String} {source : Source} {fault : Fault} (lawful : manner.urls.Lawful)
    (h : i.IsObstructed manner address email source fault) : isReported fault = false := by
  obtain ⟨p, c, e, -, -, -, obstacle⟩ := h
  cases obstacle with
  | remark _ failed => exact not_isReported_of_remarkText failed
  | query | port => rfl
  | host _ refused => exact not_isReported_of_foreign (lawful.foreign refused)

/-- The text of a file, as a part that is yet to be decoded. -/
def document (cs : List Char) : Blob :=
  .value (.string (String.ofList (unifyLines cs)))

/-- A file holds the text of a JSON document, or blank text, and this document is a record or has
one wrapped in it. -/
def HoldsRecord (around : Surroundings) (path : String) (r : Record) : Prop :=
  ∃ bytes cs, around.file path = .ok bytes ∧ Text.Utf8.decode bytes = .ok cs ∧
    (document cs).IsWellFormed ∧
    r = Record.ofJson (unwrap ((document cs).doc "record"))

/-- The path of a file: it neither looks like an option or standard input, nor holds a null
character. -/
structure IsFilePath (path : String) : Prop where
  plain : IsPlain path
  null : '\x00' ∉ path.toList

variable {around : Surroundings} {path : String}

theorem recordText_eq (file : IsFilePath path) :
    recordText around path = match around.file path with
      | .error e => .error (.undecodable "record"
          (.other ("[Errno " ++ numeral e.code ++ "] " ++ e.reason ++ ": " ++ quote path)))
      | .ok bytes =>
        match Text.Utf8.decode bytes with
        | .ok cs => .ok (unifyLines cs)
        | .error fault => .error (.notUtf8 fault) := by
  have notInput : path ≠ "-" := by
    rintro rfl
    exact file.plain rfl
  have noNull : ¬ path.toList.contains '\x00' = true := by
    rw [List.contains_iff_mem]
    exact file.null
  exact (if_neg notInput).trans (if_neg noNull)

theorem readRecord_of_missing {e : ReadError} (file : IsFilePath path)
    (content : around.file path = .error e) :
    ∃ detail, readRecord around path = .error (.undecodable "record" (.other detail)) := by
  rw [readRecord, recordText_eq file, content]
  exact ⟨_, rfl⟩

theorem readRecord_of_notUtf8 {bytes : List UInt8} {fault : Text.Utf8.Fault}
    (file : IsFilePath path) (content : around.file path = .ok bytes)
    (text : Text.Utf8.decode bytes = .error fault) :
    readRecord around path = .error (.notUtf8 fault) := by
  rw [readRecord, recordText_eq file, content]
  dsimp only
  rw [text]
  rfl

theorem readRecord_of_text {bytes : List UInt8} {cs : List Char} (file : IsFilePath path)
    (content : around.file path = .ok bytes) (text : Text.Utf8.decode bytes = .ok cs) :
    readRecord around path = (do
      let doc ← (document cs).decode "record"
      pure (unwrap doc)) := by
  have decoded : (document cs).decode "record" = Blob.decodeText "record" (unifyLines cs) := by
    rw [document, Blob.decode, String.toList_ofList]
  rw [readRecord, recordText_eq file, content, decoded]
  dsimp only
  rw [text]
  rfl

theorem readRecord_of_isRefused {bytes : List UInt8} {cs : List Char} {refusal : Json.Refusal}
    (file : IsFilePath path) (content : around.file path = .ok bytes)
    (text : Text.Utf8.decode bytes = .ok cs) (refused : (document cs).IsRefused refusal) :
    readRecord around path = .error (refusal.fault "record") := by
  rw [readRecord_of_text file content text, Blob.decode_of_isRefused refused]
  rfl

theorem readRecord_of_holdsRecord {r : Record} (file : IsFilePath path)
    (holds : HoldsRecord around path r) :
    ∃ doc, readRecord around path = .ok doc ∧ r = Record.ofJson doc := by
  obtain ⟨bytes, cs, content, text, wellFormed, rfl⟩ := holds
  refine ⟨_, ?_, rfl⟩
  rw [readRecord_of_text file content text, (wellFormed.decode _).1]
  rfl

theorem run_linkWords {email address : String} {level : Nat} (record : IsPlain path)
    (mail : IsPlain email) (host : IsPlain address) (showInfo : Bool)
    (known : Level.threshold? (String.ofList (Text.upper around.config.logLevel.toList)) =
      some level) :
    (run around ("link" :: linkWords path email address showInfo)).result =
      (runLink around path (some email) (some address)
        (around.config.showInfo || showInfo)).result := by
  rw [run, read_linkWords record mail host]
  dsimp only
  rw [known]
  rfl

/-- A level that there is not ends the command before it begins. -/
theorem run_linkWords_unknown {email address : String} (record : IsPlain path)
    (mail : IsPlain email) (host : IsPlain address) (showInfo : Bool)
    (unknown : Level.threshold? (String.ofList (Text.upper around.config.logLevel.toList)) =
      none) :
    (run around ("link" :: linkWords path email address showInfo)).result =
      .error (.unknownLevel (String.ofList (Text.upper around.config.logLevel.toList))) := by
  rw [run, read_linkWords record mail host]
  dsimp only
  rw [unknown]

theorem result_fail_of_isReported {fault : Fault} (reported : isReported fault = true)
    (notices : List Notice) (source : Source) :
    (fail fault notices source).result = .ok ⟨1, ""⟩ := by
  rw [fail, if_pos reported]

theorem result_fail_of_not_isReported {fault : Fault} (unreported : isReported fault = false)
    (notices : List Notice) (source : Source) :
    (fail fault notices source).result = .error fault := by
  rw [fail, unreported, if_neg Bool.false_ne_true]

/-- A part of a record that is stored as text is refused, the settings before the stream. -/
def PartIsRefused (r : Record) (refusal : Json.Refusal) : Prop :=
  r.settings.IsRefused refusal ∨ r.settings.IsWellFormed ∧ r.stream.IsRefused refusal

/-- Both parts of a record can be decoded. -/
def PartsAreWellFormed (r : Record) : Prop :=
  r.settings.IsWellFormed ∧ r.stream.IsWellFormed

/-- How a link command ends for a file, a client and an address, with remarks in some manner: with
an exit code and what it prints, or with a failure that it leaves to its caller. Nothing is said of
texts that are refused for an escape of half a character. -/
structure EndsWith (around : Surroundings) (path email address : String) (manner : Link.Manner)
    (result : Except Fault Exit) : Prop where
  missing : ∀ e, around.file path = .error e → result = .ok ⟨1, ""⟩
  notUtf8 : ∀ bytes fault, around.file path = .ok bytes → Text.Utf8.decode bytes = .error fault →
    result = .error (.notUtf8 fault)
  notJson : ∀ bytes cs error, around.file path = .ok bytes → Text.Utf8.decode bytes = .ok cs →
    (document cs).IsRefused (.malformed error) → result = .ok ⟨1, ""⟩
  longNumeral : ∀ bytes cs digits, around.file path = .ok bytes →
    Text.Utf8.decode bytes = .ok cs → (document cs).IsRefused (.longNumeral digits) →
    result = .error (.numeralTooLong digits 4300)
  malformedPart : ∀ r error, HoldsRecord around path r → PartIsRefused r (.malformed error) →
    result = .ok ⟨1, ""⟩
  longNumeralPart : ∀ r digits, HoldsRecord around path r → PartIsRefused r (.longNumeral digits) →
    result = .error (.numeralTooLong digits 4300)
  irregular : ∀ r fault, HoldsRecord around path r → PartsAreWellFormed r →
    r.integers.findSome? Json.refusal? = some fault → result = .error fault
  link : ∀ r, HoldsRecord around path r → PartsAreWellFormed r →
    r.integers.findSome? Json.refusal? = none →
    ∃ i, Inbound.ofRecord r = .ok i ∧
      match (i.link manner address email around.source).1 with
      | .ok text => result = .ok (if text = "" then ⟨2, ""⟩ else ⟨0, text ++ "\n"⟩)
      | .error fault => result = .error fault ∧
          i.IsObstructed manner address email around.source fault

theorem ofRecord_of_partIsRefused {r : Record} {refusal : Json.Refusal}
    (h : PartIsRefused r refusal) :
    ∃ field, Inbound.ofRecord r = .error (refusal.fault field) := by
  rcases h with settings | ⟨settings, stream⟩
  · exact ⟨_, Inbound.ofRecord_of_settings settings⟩
  · exact ⟨_, Inbound.ofRecord_of_stream settings stream⟩

section Results

variable {email address : String} {showInfo : Bool}

theorem result_of_readRecord_error {fault : Fault}
    (h : readRecord around path = .error fault) :
    (runLink around path (some email) (some address) showInfo).result =
      (fail fault [] around.source).result := by
  rw [runLink, h]

theorem result_of_ofRecord_error {doc : Json} {fault : Fault}
    (read : readRecord around path = .ok doc)
    (h : Inbound.ofRecord (Record.ofJson doc) = .error fault) :
    (runLink around path (some email) (some address) showInfo).result =
      (fail fault (Notice.ofRecord (Record.ofJson doc)) around.source).result := by
  rw [runLink, read]
  dsimp only
  rw [h]

/-- What is printed is the link, and where it is empty the exit code says so. -/
theorem result_of_link_ok {doc : Json} {i : Inbound} {text : String}
    (read : readRecord around path = .ok doc) (h : Inbound.ofRecord (Record.ofJson doc) = .ok i)
    (link : (i.link (manner around showInfo) address email around.source).1 = .ok text) :
    (runLink around path (some email) (some address) showInfo).result =
      .ok (if text = "" then ⟨2, ""⟩ else ⟨0, text ++ "\n"⟩) := by
  have made : linkFor i (manner around showInfo) (some address) (some email) around.source =
      (.ok text, (i.link (manner around showInfo) address email around.source).2) :=
    Prod.ext link rfl
  rw [runLink, read]
  dsimp only
  rw [h]
  dsimp only
  rw [made]
  dsimp only
  by_cases empty : text = ""
  · subst empty
    rfl
  · have some : text.isEmpty = false := by simpa using empty
    rw [some, if_neg Bool.false_ne_true, if_neg empty, printed]

theorem result_of_link_error {doc : Json} {i : Inbound} {fault : Fault}
    (read : readRecord around path = .ok doc) (h : Inbound.ofRecord (Record.ofJson doc) = .ok i)
    (link : (i.link (manner around showInfo) address email around.source).1 = .error fault)
    (unreported : isReported fault = false) :
    (runLink around path (some email) (some address) showInfo).result = .error fault := by
  have made : linkFor i (manner around showInfo) (some address) (some email) around.source =
      (.error fault, (i.link (manner around showInfo) address email around.source).2) :=
    Prod.ext link rfl
  rw [runLink, read]
  dsimp only
  rw [h]
  dsimp only
  rw [made]
  exact result_fail_of_not_isReported unreported _ _

end Results

/-- How the command ends for the record in a file, the client with an email, and a plain host name,
at a level of notices that there is. A level that there is not is left to the caller. -/
theorem link_command_ends {email address : String} (lawful : around.urls.Lawful)
    (file : IsFilePath path) (mail : IsPlain email) (host : Host.IsPlainName address)
    (showInfo : Bool) :
    match Level.threshold? (String.ofList (Text.upper around.config.logLevel.toList)) with
    | none => (run around ("link" :: linkWords path email address showInfo)).result =
        .error (.unknownLevel (String.ofList (Text.upper around.config.logLevel.toList)))
    | some _ =>
      EndsWith around path email address (manner around (around.config.showInfo || showInfo))
        (run around ("link" :: linkWords path email address showInfo)).result := by
  split
  · next unknown => exact run_linkWords_unknown file.plain mail host.front showInfo unknown
  next known =>
  rw [run_linkWords file.plain mail host.front showInfo known]
  constructor
  case missing =>
    intro e content
    obtain ⟨detail, refused⟩ := readRecord_of_missing file content
    rw [result_of_readRecord_error refused]
    exact result_fail_of_isReported rfl _ _
  case notUtf8 =>
    intro bytes fault content text
    rw [result_of_readRecord_error (readRecord_of_notUtf8 file content text)]
    exact result_fail_of_not_isReported rfl _ _
  case notJson =>
    intro bytes cs error content text notJson
    rw [result_of_readRecord_error (readRecord_of_isRefused file content text notJson)]
    exact result_fail_of_isReported rfl _ _
  case longNumeral =>
    intro bytes cs digits content text long
    rw [result_of_readRecord_error (readRecord_of_isRefused file content text long)]
    exact result_fail_of_not_isReported rfl _ _
  case malformedPart =>
    intro r error holds part
    obtain ⟨doc, read, rfl⟩ := readRecord_of_holdsRecord file holds
    obtain ⟨field, refused⟩ := ofRecord_of_partIsRefused part
    rw [result_of_ofRecord_error read refused]
    exact result_fail_of_isReported rfl _ _
  case longNumeralPart =>
    intro r digits holds part
    obtain ⟨doc, read, rfl⟩ := readRecord_of_holdsRecord file holds
    obtain ⟨field, refused⟩ := ofRecord_of_partIsRefused part
    rw [result_of_ofRecord_error read refused]
    exact result_fail_of_not_isReported rfl _ _
  case irregular =>
    intro r fault holds parts first
    obtain ⟨doc, read, rfl⟩ := readRecord_of_holdsRecord file holds
    obtain ⟨i, -, reading⟩ := Inbound.absorbs_ofRecord parts.1 parts.2
    rw [first] at reading
    obtain ⟨value, -, refusal⟩ := List.exists_of_findSome?_eq_some first
    rw [result_of_ofRecord_error read reading]
    exact result_fail_of_not_isReported (not_isReported_of_refusal? refusal) _ _
  case link =>
    intro r holds parts regular
    obtain ⟨doc, read, rfl⟩ := readRecord_of_holdsRecord file holds
    obtain ⟨i, -, reading⟩ := Inbound.absorbs_ofRecord parts.1 parts.2
    rw [regular] at reading
    refine ⟨i, reading, ?_⟩
    split
    · next text link => exact result_of_link_ok read reading link
    · next fault link =>
      have obstructed := Inbound.isObstructed_of_link lawful host link
      have unreported := not_isReported_of_isObstructed lawful obstructed
      exact ⟨result_of_link_error read reading link unreported, obstructed⟩

/-- Surroundings in which every file has some bytes. -/
def filled (bytes : List UInt8) : Surroundings :=
  { config := {}
    file := fun _ => .ok bytes
    input := ""
    now := .int 5
    source := Source.ofWords [0]
    urls := Host.library }

/-- A byte that starts no character is left to the caller of the command, where an empty object is
the record of an inbound without links. -/
theorem stray_byte_is_left_to_caller :
    (run (filled [0xFF]) ["link", "r.json", "ada", "--address", "a.example"]).result =
        .error (.notUtf8 ⟨0xFF, 0, 1, .startByte⟩) ∧
      (run (filled [0x7B, 0x7D]) ["link", "r.json", "ada", "--address", "a.example"]).result =
        .ok ⟨2, ""⟩ := by
  have file : IsFilePath "r.json" := ⟨by simp [IsPlain], by decide⟩
  have mail : IsPlain "ada" := by simp [IsPlain]
  have host : Host.IsPlainName "a.example" :=
    ⟨by decide, by decide, by decide, by decide⟩
  have known : Level.threshold? (String.ofList (Text.upper "WARNING".toList)) = some 30 := by
    decide +kernel
  have ends (bytes : List UInt8) :
      EndsWith (filled bytes) "r.json" "ada" "a.example" (manner (filled bytes) false)
        (run (filled bytes) ["link", "r.json", "ada", "--address", "a.example"]).result := by
    have lawful : (filled bytes).urls.Lawful := Host.lawful_library
    have whole := link_command_ends lawful file mail host false
    rw [show (filled bytes).config.logLevel = "WARNING" from rfl, known] at whole
    exact whole
  constructor
  · exact (ends _).notUtf8 [0xFF] _ rfl rfl
  · have wellFormed : (document "\x7b\x7d".toList).IsWellFormed := by
      have parsed : Json.parse (String.ofList (unifyLines "\x7b\x7d".toList)).toList =
          .ok (.object []) := rfl
      rintro refusal ⟨cs, text, -, refused⟩
      cases text
      rw [parsed] at refused
      cases refused
    have holds : HoldsRecord (filled [0x7B, 0x7D]) "r.json" (Record.ofJson (.object [])) :=
      ⟨[0x7B, 0x7D], "\x7b\x7d".toList, rfl, rfl, wellFormed, rfl⟩
    have absent : (Blob.value .null).IsWellFormed := by
      rintro refusal ⟨cs, text, -⟩
      cases text
    obtain ⟨i, read, ended⟩ := (ends _).link _ holds ⟨absent, absent⟩ rfl
    cases read
    exact ended

end CommandLine
end ShareLinks
