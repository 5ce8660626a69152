import ShareLinks.Stored
import ShareLinks.Proofs.Enrolment
import ShareLinks.Proofs.Json.RoundTrip

/-!
# The text of settings

Settings come from a document, and clients are added to them that were read or made. However many
these are, the text of the settings is read back as the settings, in either layout; so it is
written again as it was, and it is the text of no other settings. There is such a text unless a
number in the settings has more digits than a numeral may have.
-/

namespace ShareLinks

namespace Client

/-- Limits that are integers. -/
def Limits.whole (totalGigabytes expiryTime limitIp telegramId : Int)
    (subscriptionId : String) : Limits :=
  { totalGigabytes := .int totalGigabytes
    expiryTime := .int expiryTime
    limitIp := .int limitIp
    telegramId := .int telegramId
    subscriptionId }

/-- A client that is made with such limits has integers for them. -/
theorem hasIntegerLimits_generate {protocol email subscriptionId : String}
    {total expiry limitIp telegramId : Int} {now : Number} {source after : Source} {c : Client}
    (made : generate protocol email (.whole total expiry limitIp telegramId subscriptionId) now
      source = (.ok c, after)) : c.HasIntegerLimits := by
  obtain ⟨madeAt, p, -, -, credential⟩ := generate_eq_ok made
  have new : (blank email (.whole total expiry limitIp telegramId subscriptionId) madeAt).IsNew
      email := ⟨rfl, ⟨_, rfl⟩, ⟨_, rfl⟩, ⟨_, rfl⟩, ⟨_, rfl⟩⟩
  have signed := isNew_withCredential new p source
  rw [credential] at signed
  exact signed.limits

end Client

namespace Settings

/-- Settings that were read from a document, with clients that were added since: each of them was
read too, or made with integer limits. -/
inductive Grown : Settings → Prop
  | read {doc : Json} {s : Settings} (distinct : doc.hasDistinctNames = true)
      (h : ofJson doc = .ok s) : Grown s
  | addRead {s : Settings} {doc : Json} {c : Client} (grown : Grown s)
      (h : Client.ofJson doc = .ok c) : Grown (s.add c)
  | addMade {s : Settings} {protocol email subscriptionId : String}
      {total expiry limitIp telegramId : Int} {now : Number} {source after : Source} {c : Client}
      (grown : Grown s)
      (h : Client.generate protocol email
        (.whole total expiry limitIp telegramId subscriptionId) now source = (.ok c, after)) :
      Grown (s.add c)

theorem Grown.isStorable {s : Settings} (grown : s.Grown) : s.IsStorable := by
  induction grown with
  | read distinct h => exact isStorable_ofJson distinct h
  | addRead _ h ih => exact ih.add (Client.hasIntegerLimits_ofJson h)
  | addMade _ h ih => exact ih.add (Client.hasIntegerLimits_generate h)

variable {s t : Settings} {style other : Json.Style} {text : String}

theorem text_eq_ok_iff : (Stored.settings s).text style = .ok text ↔
    s.toJson.isWritable = true ∧ text = s.toJson.render style :=
  Json.write_eq_ok_iff style s.toJson text

theorem text_of_overlong (overlong : s.toJson.isWritable = false) (style : Json.Style) :
    (Stored.settings s).text style = .error (.integerTooLong Text.maxDigits) := by
  show Json.write style s.toJson = _
  rw [Json.write, overlong, if_neg Bool.false_ne_true]

/-- The text of settings holds the document that was written. -/
theorem Grown.parse_text (grown : s.Grown) (written : (Stored.settings s).text style = .ok text) :
    Json.parse text.toList = .ok s.toJson := by
  have normal := Json.normal_eq_self _ grown.isStorable.hasDistinctNames_toJson
  rw [Json.parse_write written, normal]

/-- Different settings have different texts, whatever their layouts. -/
theorem Grown.eq_of_text (first : s.Grown) (second : t.Grown)
    (written : (Stored.settings s).text style = .ok text)
    (written' : (Stored.settings t).text other = .ok text) : s = t := by
  have same : s.toJson = t.toJson :=
    Except.ok.inj ((first.parse_text written).symm.trans (second.parse_text written'))
  have back := ofJson_toJson first.isStorable
  rw [same, ofJson_toJson second.isStorable] at back
  exact (Except.ok.inj back).symm

/-- Settings that were read, with clients that were read or made added to them, have a text in both
layouts exactly where all numbers in them have numerals that can be read. The text is a document
that is read as these settings, so they are written again as they were; and it is the text of no
other such settings. -/
theorem grown_settings_read_back (grown : s.Grown) :
    (∀ style, (s.toJson.isWritable = true → ∃ text, (Stored.settings s).text style = .ok text) ∧
      (s.toJson.isWritable = false →
        (Stored.settings s).text style = .error (.integerTooLong Text.maxDigits))) ∧
    (∀ style text, (Stored.settings s).text style = .ok text →
      ∃ doc, Json.parse text.toList = .ok doc ∧ ofJson doc = .ok s ∧
        ∀ again, ofJson doc = .ok again → (Stored.settings again).text style = .ok text) ∧
    (∀ t style other text, t.Grown → (Stored.settings s).text style = .ok text →
      (Stored.settings t).text other = .ok text → s = t) := by
  refine ⟨fun style => ⟨fun writable => ?_, fun overlong => text_of_overlong overlong style⟩,
    fun style text written => ?_,
    fun t style other text second written written' => grown.eq_of_text second written written'⟩
  · exact ⟨_, text_eq_ok_iff.mpr ⟨writable, rfl⟩⟩
  · have back := ofJson_toJson grown.isStorable
    refine ⟨s.toJson, grown.parse_text written, back, fun again h => ?_⟩
    obtain rfl : s = again := Except.ok.inj (back.symm.trans h)
    exact written

/-- Settings with a client and a field of their own. -/
def sampleSettings : Json :=
  .object [("fallbacks", .array [.float .nan]), ("encryption", .string ""),
    ("clients", .array [.object [("email", .string "é"), ("tgId", .string "-3")]])]

/-- Settings with a client that was read, another that was read later, and one that was made. -/
theorem sample_settings_read_back :
    ∃ (s t : Settings) (c d : Client) (after : Source) (text : String),
      ofJson sampleSettings = .ok s ∧ Client.ofJson (.object [("email", .int 3)]) = .ok c ∧
        Client.generate "trojan" "bo" (.whole 2 (-86400000) 1 7 "sub") (.int 5)
            (Source.ofWords [9]) = (.ok d, after) ∧
        t = (s.add c).add d ∧ t.Grown ∧ (Stored.settings t).text Json.pretty = .ok text ∧
        ∃ doc, Json.parse text.toList = .ok doc ∧ ofJson doc = .ok t := by
  have read : ∃ s, ofJson sampleSettings = .ok s := ⟨_, rfl⟩
  have later : ∃ c, Client.ofJson (.object [("email", .int 3)]) = .ok c := ⟨_, rfl⟩
  have made : ∃ d after, Client.generate "trojan" "bo" (.whole 2 (-86400000) 1 7 "sub") (.int 5)
      (Source.ofWords [9]) = (.ok d, after) := ⟨_, _, rfl⟩
  obtain ⟨s, read⟩ := read
  obtain ⟨c, later⟩ := later
  obtain ⟨d, after, made⟩ := made
  have grown : ((s.add c).add d).Grown :=
    .addMade (.addRead (.read (by decide) read) later) made
  have writable : ((s.add c).add d).toJson.isWritable = true := by
    cases read
    cases later
    cases made
    decide +kernel
  obtain ⟨exists_text, back, -⟩ := grown_settings_read_back grown
  obtain ⟨text, written⟩ := (exists_text Json.pretty).1 writable
  obtain ⟨doc, parsed, settings, -⟩ := back _ text written
  exact ⟨s, _, c, d, after, text, read, later, made, rfl, grown, written, doc, parsed, settings⟩

/-- Settings with a client that was made at too late a time have no text. -/
theorem overlong_time_is_not_written :
    ∃ c after, Client.generate "vless" "bo" (.whole 0 0 0 0 "aaaaaaaaaaaaaaaa")
        (.int (10 ^ 4298)) (Source.ofWords [0]) = (.ok c, after) ∧
      (Inbound.openInbound.settings.add c).Grown ∧
      ∀ style, (Stored.settings (Inbound.openInbound.settings.add c)).text style =
        .error (.integerTooLong 4300) := by
  have made : ∃ c after, Client.generate "vless" "bo" (.whole 0 0 0 0 "aaaaaaaaaaaaaaaa")
      (.int (10 ^ 4298)) (Source.ofWords [0]) = (.ok c, after) := ⟨_, _, rfl⟩
  obtain ⟨c, after, made⟩ := made
  have read : ofJson (.object [("clients", .array
      [.object [("email", .string "ada"), ("id", .string "k1")]])]) =
        .ok Inbound.openInbound.settings := rfl
  have grown : (Inbound.openInbound.settings.add c).Grown := .addMade (.read (by decide) read) made
  have overlong : (Inbound.openInbound.settings.add c).toJson.isWritable = false := by
    cases made
    decide +kernel
  exact ⟨c, after, made, grown, text_of_overlong overlong⟩

end Settings
end ShareLinks
