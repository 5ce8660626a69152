import Mathlib.Data.List.TakeWhile
import ShareLinks.Proofs.Enrolment
import ShareLinks.Proofs.Json.RoundTrip

/-!
# Stored records and live inbounds

A server may keep an inbound in memory, or store the settings that each enrolment gives and read
the record again for the next request. Both give the same replies. What holds between the two
after every request is that reading the record gives the inbound, and that its settings are such
as are read back.
-/

namespace ShareLinks

namespace Blob

/-- A part of a record that was decoded already names no field twice. -/
def HasDistinctNames : Blob → Prop
  | .value doc => doc.hasDistinctNames = true
  | .bytes _ => True

theorem hasDistinctNames_decodeText {field : String} {cs : List Char} {doc : Json}
    (h : decodeText field cs = .ok doc) : doc.hasDistinctNames = true := by
  unfold decodeText at h
  split at h
  · cases h; rfl
  · split at h
    · next found read =>
      cases h
      have distinct := Json.hasDistinctNames_of_parse read
      cases found with
      | object fields => exact distinct
      | _ => rfl
    · cases h

theorem hasDistinctNames_decode {field : String} {blob : Blob} (distinct : blob.HasDistinctNames)
    {doc : Json} (h : blob.decode field = .ok doc) : doc.hasDistinctNames = true := by
  unfold decode at h
  split at h
  · cases h; exact distinct
  · exact hasDistinctNames_decodeText h
  · cases h; rfl
  · exact hasDistinctNames_decodeText h

theorem not_isEmpty_trim {c : Char} (hc : Text.isBlank c = false) (cs : List Char) :
    (Text.trim (c :: cs)).isEmpty = false := by
  have kept : (c :: cs).dropWhile Text.isBlank = c :: cs := by
    rw [List.dropWhile_cons, hc]
    rfl
  rw [Text.trim, kept, List.isEmpty_reverse, List.isEmpty_eq_false_iff, ne_eq,
    List.dropWhile_eq_nil_iff]
  intro blank
  have := blank c (by simp)
  rw [hc] at this
  cases this

theorem decodeText_text (field : String) (style : Json.Style) {fields : Fields}
    (distinct : (Json.object fields).hasDistinctNames = true)
    (writable : (Json.object fields).isWritable = true) :
    decodeText field ((Json.object fields).text style) = .ok (.object fields) := by
  obtain ⟨cs, brace⟩ : ∃ cs, (Json.object fields).text style = '\x7b' :: cs := by
    cases fields with
    | nil => exact ⟨_, rfl⟩
    | cons field fields => exact ⟨_, by rw [Json.text, Json.textAt]; rfl⟩
  have notBlank : (Text.trim ((Json.object fields).text style)).isEmpty = false := by
    rw [brace]
    exact not_isEmpty_trim (by decide) cs
  rw [decodeText, notBlank, Json.parse_text style writable, Json.normal_eq_self _ distinct]
  rfl

end Blob

theorem Record.hasDistinctNames_ofJson {doc : Json} (distinct : doc.hasDistinctNames = true) :
    (Record.ofJson doc).settings.HasDistinctNames :=
  Json.hasDistinctNames_field distinct "settings"

namespace Settings

/-- Stored settings are read back from the text that enrolling gives. -/
theorem IsStorable.decode_render {s : Settings} (h : s.IsStorable)
    (writable : s.toJson.isWritable = true) (field : String) :
    (Blob.value (.string (s.toJson.render Json.compact))).decode field = .ok s.toJson := by
  have distinct := h.hasDistinctNames_toJson
  rw [toJson_eq] at distinct writable
  rw [toJson_eq, Blob.decode, Json.render, String.toList_ofList]
  exact Blob.decodeText_text field Json.compact distinct writable

end Settings

namespace Inbound

theorem isStorable_ofRecord {r : Record} {i : Inbound} (distinct : r.settings.HasDistinctNames)
    (h : ofRecord r = .ok i) : i.settings.IsStorable := by
  obtain ⟨front, first, h⟩ := bind_eq_ok_iff.mp h
  obtain ⟨stream, -, h⟩ := bind_eq_ok_iff.mp h
  obtain ⟨stats, -, h⟩ := bind_eq_ok_iff.mp h
  cases h
  simp only [readFront, bind_eq_ok_iff] at first
  obtain ⟨doc, decoded, _, -, _, -, _, -, settings, read, h⟩ := first
  cases h
  exact Settings.isStorable_ofJson (Blob.hasDistinctNames_decode distinct decoded) read

/-- A record whose settings are replaced is read as before, but for the settings. -/
theorem ofRecord_withSettings {r : Record} {i : Inbound} {s : Settings} (h : ofRecord r = .ok i)
    (storable : s.IsStorable) (writable : s.toJson.isWritable = true) :
    ofRecord (r.withSettings (s.toJson.render Json.compact)) = .ok { i with settings := s } := by
  obtain ⟨front, first, h⟩ := bind_eq_ok_iff.mp h
  obtain ⟨stream, second, h⟩ := bind_eq_ok_iff.mp h
  obtain ⟨stats, third, h⟩ := bind_eq_ok_iff.mp h
  cases h
  simp only [readFront, bind_eq_ok_iff] at first
  obtain ⟨doc, decoded, streamDoc, streamDecoded, id, hid, port, hport, settings, read, h⟩ := first
  cases h
  have front : readFront (r.withSettings (s.toJson.render Json.compact)) =
      .ok { id, port, settings := s, streamDoc } := by
    simp only [readFront, Record.withSettings, storable.decode_render writable, streamDecoded, hid,
      hport, Settings.ofJson_toJson storable, bind, Except.bind, pure, Except.pure]
  simp only [ofRecord, front, bind, Except.bind, second]
  simp only [Record.withSettings, third]
  rfl

end Inbound

/-- What a client asks a server for: to enrol an email, with links to an address. -/
structure Request where
  email : String
  address : String
  manner : Link.Manner

/-- The reply to a request, and what the server has afterwards. -/
structure Reply (σ : Type) where
  outcome : Except Fault Enrolment
  state : σ
  source : Source

/-- Serves requests up to the first that fails, with a step that says how one request is served. -/
def serve {σ : Type} (step : σ → Request → Source → Reply σ) (state : σ) (source : Source) :
    List Request → List (Reply σ)
  | [] => []
  | request :: requests =>
    let reply := step state request source
    match reply.outcome with
    | .error _ => [reply]
    | .ok _ => reply :: serve step reply.state reply.source requests

/-- A request served by an inbound that is kept in memory. -/
def Inbound.reply (i : Inbound) (request : Request) (source : Source) : Reply Inbound :=
  let (outcome, i, source) := i.enrol request.manner request.address request.email source
  { outcome, state := i, source }

/-- A request served by a stored record: it is read, and where enrolling succeeds its settings are
replaced by those that were given. -/
def Record.reply (r : Record) (request : Request) (source : Source) : Reply Record :=
  match Inbound.ofRecord r with
  | .error fault => { outcome := .error fault, state := r, source }
  | .ok i =>
    let (outcome, _, source) := i.enrol request.manner request.address request.email source
    match outcome with
    | .error fault => { outcome := .error fault, state := r, source }
    | .ok e => { outcome := .ok e, state := r.withSettings e.settings, source }

/-- What holds between a stored record and the inbound in memory. -/
structure Record.Holds (r : Record) (i : Inbound) : Prop where
  read : Inbound.ofRecord r = .ok i
  storable : i.settings.IsStorable

/-- Two replies are the same to the client, and where they are no failure the states behind them
still belong together. -/
structure Reply.Agrees (stored : Reply Record) (live : Reply Inbound) : Prop where
  outcome : stored.outcome = live.outcome
  source : stored.source = live.source
  state : ∀ e, live.outcome = .ok e → stored.state.Holds live.state

theorem Record.Holds.reply {r : Record} {i : Inbound} (h : r.Holds i) (request : Request)
    (source : Source) : (r.reply request source).Agrees (i.reply request source) := by
  cases enrolled : i.enrol request.manner request.address request.email source with
  | mk outcome rest =>
    obtain ⟨i', after⟩ := rest
    have live : i.reply request source = ⟨outcome, i', after⟩ := by
      simp only [Inbound.reply, enrolled]
    cases outcome with
    | error fault =>
      have stored : r.reply request source = ⟨.error fault, r, after⟩ := by
        simp only [Record.reply, h.read, enrolled]
      rw [live, stored]
      exact ⟨rfl, rfl, fun e failed => by cases failed⟩
    | ok e =>
      have stored : r.reply request source = ⟨.ok e, r.withSettings e.settings, after⟩ := by
        simp only [Record.reply, h.read, enrolled]
      obtain ⟨c, next, text, made, rfl, -, writable, rfl⟩ := Inbound.enrol_eq_ok enrolled
      have storable : (i.addClient c).settings.IsStorable :=
        h.storable.add (Inbound.isNew_newClient made).limits
      rw [live, stored]
      exact ⟨rfl, rfl, fun _ _ =>
        ⟨Inbound.ofRecord_withSettings h.read storable writable, storable⟩⟩

theorem Record.Holds.serve {r : Record} {i : Inbound} (h : r.Holds i) (source : Source)
    (requests : List Request) :
    List.Forall₂ Reply.Agrees (ShareLinks.serve Record.reply r source requests)
      (ShareLinks.serve Inbound.reply i source requests) := by
  induction requests generalizing r i source with
  | nil => exact .nil
  | cons request requests ih =>
    have agrees := h.reply request source
    cases outcome : (i.reply request source).outcome with
    | error fault =>
      simp only [ShareLinks.serve, agrees.outcome, outcome]
      exact .cons agrees .nil
    | ok e =>
      simp only [ShareLinks.serve, agrees.outcome, agrees.source, outcome]
      exact .cons agrees (ih (agrees.state e outcome) _)

/-- Storing the settings of each enrolment and reading them again simulates an inbound in memory:
reply by reply the outcome and the random source are the same, and what was stored is read as the
inbound. -/
theorem stored_serves_as_live {r : Record} {i : Inbound} (distinct : r.settings.HasDistinctNames)
    (read : Inbound.ofRecord r = .ok i) (source : Source) (requests : List Request) :
    List.Forall₂
      (fun (stored : Reply Record) (live : Reply Inbound) =>
        stored.outcome = live.outcome ∧ stored.source = live.source ∧
          (∀ e, live.outcome = .ok e → Inbound.ofRecord stored.state = .ok live.state))
      (serve Record.reply r source requests) (serve Inbound.reply i source requests) := by
  have holds : r.Holds i := ⟨read, Inbound.isStorable_ofRecord distinct read⟩
  exact (holds.serve source requests).imp fun _ _ agrees =>
    ⟨agrees.outcome, agrees.source, fun e ok => (agrees.state e ok).read⟩

/-- A record of a server with one client and a setting of its own. -/
def sampleDoc : Json :=
  .object [("port", .int 443), ("protocol", .string "vless"), ("settings", .object
    [("decryption", .string "none"),
      ("clients", .array [.object [("email", .string "ada"), ("id", .string "k1")]])])]

/-- The inbound of that record. -/
def sampleLive : Inbound :=
  { port := 443
    protocol := "vless"
    settings :=
      { clients := [{ email := "ada", id := "k1" }], extra := [("decryption", .string "none")] } }

/-- Two requests one after another, the first for an email that is taken. -/
def sampleRequests : List Request :=
  [⟨"ada", "a.example", Link.plainManner⟩,
    ⟨"bo", "a.example", { Link.plainManner with now := .int 6 }⟩]

/-- The link and the credential that each of some replies gives. -/
def given {σ : Type} (replies : List (Reply σ)) : List (Except Fault (String × String)) :=
  replies.map fun reply => reply.outcome.map fun e => (e.link, e.credential)

/-- Both requests succeed. The first gets the link of the client who has its email already. -/
theorem sample_serves_as_live :
    (Record.ofJson sampleDoc).settings.HasDistinctNames ∧
      Inbound.ofRecord (Record.ofJson sampleDoc) = .ok sampleLive ∧
      given (serve Record.reply (Record.ofJson sampleDoc) (Source.ofWords [0]) sampleRequests) =
        [.ok ("vless://k1@a.example:443?type=&security=none#ada",
            "00000000-0000-4000-8000-000000000000"),
          .ok ("vless://00000000-0000-4000-8000-000000000000@a.example:443?type=&security=none#bo",
            "00000000-0000-4000-8000-000000000000")] := by
  have distinct : (Record.ofJson sampleDoc).settings.HasDistinctNames :=
    Record.hasDistinctNames_ofJson (by decide)
  have read : Inbound.ofRecord (Record.ofJson sampleDoc) = .ok sampleLive := by rfl
  have replies := stored_serves_as_live distinct read (Source.ofWords [0]) sampleRequests
  have same :
      given (serve Record.reply (Record.ofJson sampleDoc) (Source.ofWords [0]) sampleRequests) =
        given (serve Inbound.reply sampleLive (Source.ofWords [0]) sampleRequests) := by
    rw [given, given, ← List.forall₂_eq_eq_eq, List.forall₂_map_left_iff,
      List.forall₂_map_right_iff]
    exact replies.imp fun stored live agree => by rw [agree.1]
  refine ⟨distinct, read, same.trans ?_⟩
  rfl

end ShareLinks
