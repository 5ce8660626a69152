import ShareLinks.Enrolment
import ShareLinks.Proofs.Codec
import ShareLinks.Proofs.Host.Library

/-!
# What enrolling does

Enrolling makes a client and adds it behind the others. Only then it writes the link and the
settings, so all that can still fail leaves the client where it is.
-/

namespace ShareLinks

namespace Client

/-- What a new client has whatever its protocol: its email, and limits that can be stored. -/
structure IsNew (c : Client) (email : String) : Prop where
  email : c.email = email
  limits : c.HasIntegerLimits

theorem isNew_withCredential {c : Client} {email : String} (h : c.IsNew email) (p : Protocol)
    (source : Source) : (c.withCredential p source).1.IsNew email := by
  obtain ⟨hemail, hlimits⟩ := h
  obtain ⟨limitIp, totalBytes, expiryTime, telegramId⟩ := hlimits
  cases p <;> simp only [withCredential] <;>
    exact ⟨hemail, ⟨limitIp, totalBytes, expiryTime, telegramId⟩⟩

theorem isNew_blank (email subscriptionId : String) (madeAt : Int) :
    (blank email { subscriptionId } madeAt).IsNew email :=
  ⟨rfl, ⟨_, rfl⟩, ⟨_, rfl⟩, ⟨_, rfl⟩, ⟨_, rfl⟩⟩

/-- A client is made when its time can be converted and its protocol has links. -/
theorem generate_eq_ok {protocol email : String} {limits : Limits} {now : Number}
    {source after : Source} {c : Client}
    (h : generate protocol email limits now source = (.ok c, after)) :
    ∃ madeAt p, now.milliseconds = .ok madeAt ∧ Protocol.ofName? protocol = some p ∧
      (blank email limits madeAt).withCredential p source = (c, after) := by
  unfold generate at h
  split at h
  · cases h
  · next madeAt time =>
    split at h
    · cases h
    · next p known =>
      cases h
      exact ⟨madeAt, p, time, known, rfl⟩

end Client

namespace Inbound

/-- The client that enrolling makes, and the random source after it. -/
def newClient (i : Inbound) (manner : Link.Manner) (email : String) (source : Source) :
    Except Fault Client × Source :=
  Client.generate i.protocol email
    { subscriptionId := (source.letters Client.subscriptionIdLength).1 } manner.now
    (source.letters Client.subscriptionIdLength).2

/-- The inbound with a client behind the others. -/
def addClient (i : Inbound) (c : Client) : Inbound :=
  { i with settings := i.settings.add c }

/-- What enrolling reports once the client was added and the link was written, or was not. -/
def report (i : Inbound) (c : Client) (email : String) (link : Except Fault String) :
    Except Fault Enrolment := do
  let link ← link
  let settings ← i.settings.toJson.write Json.compact
  pure { link, credential := c.credential, email, settings }

variable {i : Inbound} {manner : Link.Manner} {email : String} {source after : Source}

/-- Where no client can be made nothing changes. -/
theorem enrol_of_error {fault : Fault} (h : i.newClient manner email source = (.error fault, after))
    (address : String) : i.enrol manner address email source = (.error fault, i, after) := by
  unfold newClient at h
  simp only [enrol, h]

/-- A client that was made is added, whatever comes of its link. -/
theorem enrol_of_ok {c : Client} (h : i.newClient manner email source = (.ok c, after))
    (address : String) :
    i.enrol manner address email source =
      ((i.addClient c).report c email ((i.addClient c).link manner address email after).1,
        i.addClient c, ((i.addClient c).link manner address email after).2) := by
  unfold newClient at h
  simp only [enrol, h]
  rfl

theorem isNew_newClient {c : Client} (h : i.newClient manner email source = (.ok c, after)) :
    c.IsNew email := by
  obtain ⟨madeAt, p, -, -, made⟩ := Client.generate_eq_ok h
  have new := Client.isNew_withCredential (Client.isNew_blank email
    (source.letters Client.subscriptionIdLength).1 madeAt) p
    (source.letters Client.subscriptionIdLength).2
  rwa [made] at new

theorem report_eq_ok_iff {c : Client} {link : Except Fault String} {e : Enrolment} :
    i.report c email link = .ok e ↔ ∃ text, link = .ok text ∧
      i.settings.toJson.isWritable = true ∧
      e = ⟨text, c.credential, email, i.settings.toJson.render Json.compact⟩ := by
  simp only [report, bind_eq_ok_iff, Json.write_eq_ok_iff, pure, Except.pure, Except.ok.injEq]
  constructor
  · rintro ⟨text, linked, _, ⟨writable, rfl⟩, rfl⟩
    exact ⟨text, linked, writable, rfl⟩
  · rintro ⟨text, linked, writable, rfl⟩
    exact ⟨text, linked, _, ⟨writable, rfl⟩, rfl⟩

theorem enrol_eq_ok {address : String} {e : Enrolment} {enrolled : Inbound}
    (h : i.enrol manner address email source = (.ok e, enrolled, after)) :
    ∃ c next text, i.newClient manner email source = (.ok c, next) ∧
      enrolled = i.addClient c ∧ enrolled.link manner address email next = (.ok text, after) ∧
      enrolled.settings.toJson.isWritable = true ∧
      e = ⟨text, c.credential, email, enrolled.settings.toJson.render Json.compact⟩ := by
  cases made : i.newClient manner email source with
  | mk outcome next =>
    cases outcome with
    | error fault => rw [enrol_of_error made] at h; cases h
    | ok c =>
      rw [enrol_of_ok made, Prod.mk.injEq, Prod.mk.injEq] at h
      obtain ⟨reported, rfl, rfl⟩ := h
      obtain ⟨text, linked, writable, rfl⟩ := report_eq_ok_iff.mp reported
      exact ⟨c, next, text, rfl, rfl, Prod.ext linked rfl, writable, rfl⟩

/-- A client can be made for the inbound: it has links, and the time can be converted. -/
def CanMakeClient (i : Inbound) (manner : Link.Manner) : Prop :=
  (∃ madeAt, manner.now.milliseconds = .ok madeAt) ∧ ∃ p, i.protocol? = some p

theorem newClient_eq_ok_iff :
    (∃ c next, i.newClient manner email source = (.ok c, next)) ↔ i.CanMakeClient manner := by
  constructor
  · rintro ⟨c, next, made⟩
    obtain ⟨madeAt, p, time, known, -⟩ := Client.generate_eq_ok made
    exact ⟨⟨madeAt, time⟩, p, known⟩
  · rintro ⟨⟨madeAt, time⟩, p, known⟩
    rw [protocol?] at known
    simp only [newClient, Client.generate, time, known]
    exact ⟨_, _, rfl⟩

/-- Without a link nothing is reported, nor where the settings cannot be written. -/
theorem report_eq_error_iff {c : Client} {link : Except Fault String} {fault : Fault} :
    i.report c email link = .error fault ↔ link = .error fault ∨
      ∃ text, link = .ok text ∧ i.settings.toJson.write Json.compact = .error fault := by
  cases link with
  | error refused => simp [report, bind, Except.bind]
  | ok text =>
    cases written : i.settings.toJson.write Json.compact with
    | error refused => simp [report, bind, Except.bind, written]
    | ok settings => simp [report, bind, Except.bind, written, pure, Except.pure]

/-- A failed enrolment leaves the inbound as it was where no client could be made. Otherwise the
new client stays behind the others and nothing else changes, and what failed is the link to it or
the writing of the settings. -/
theorem failed_enrolment {address : String} {fault : Fault} {failed : Inbound}
    (h : i.enrol manner address email source = (.error fault, failed, after)) :
    (¬ i.CanMakeClient manner → failed = i) ∧
      (i.CanMakeClient manner → ∃ c next, i.newClient manner email source = (.ok c, next) ∧
        c.email = email ∧ failed = { i with settings := i.settings.add c } ∧
        failed.settings.clients = i.settings.clients ++ [c] ∧
        (failed.link manner address email next = (.error fault, after) ∨
          failed.settings.toJson.write Json.compact = .error fault)) := by
  cases made : i.newClient manner email source with
  | mk outcome next =>
    cases outcome with
    | error refused =>
      rw [enrol_of_error made] at h
      cases h
      refine ⟨fun _ => rfl, fun can => ?_⟩
      obtain ⟨c, other, made'⟩ := newClient_eq_ok_iff.mpr can
      rw [made] at made'
      cases made'
    | ok c =>
      rw [enrol_of_ok made, Prod.mk.injEq, Prod.mk.injEq] at h
      obtain ⟨reported, rfl, rfl⟩ := h
      refine ⟨fun cannot => ?_, fun _ => ⟨c, next, rfl, (isNew_newClient made).email, rfl, rfl, ?_⟩⟩
      · exact absurd (newClient_eq_ok_iff.mp ⟨c, next, made⟩) cannot
      · rcases report_eq_error_iff.mp reported with link | ⟨-, -, settings⟩
        · exact .inl (Prod.ext link rfl)
        · exact .inr settings

/-- An inbound with one client. -/
def openInbound : Inbound :=
  { port := 443
    protocol := "vless"
    settings := { clients := [{ email := "ada", id := "k1" }] }
    stream := { network := "tcp" } }

/-- A client whose link cannot be written stays. -/
theorem refused_address_leaves_client :
    ∃ failed after,
      openInbound.enrol Link.plainManner "1.2.3.256" "bo" (Source.ofWords [0]) =
          (.error (.invalidIpv4 "1.2.3.256"), failed, after) ∧
        failed.settings.clients ≠ openInbound.settings.clients := by
  refine ⟨_, _, rfl, fun same => ?_⟩
  have longer := congrArg List.length same
  exact absurd longer (by decide)

theorem failed_enrolment_at_refused_address :
    ∃ fault failed after,
      openInbound.enrol Link.plainManner "1.2.3.256" "bo" (Source.ofWords [0]) =
          (.error fault, failed, after) ∧
        ∃ c, c.email = "bo" ∧ failed.settings.clients = openInbound.settings.clients ++ [c] := by
  have refused : ∃ fault failed after,
      openInbound.enrol Link.plainManner "1.2.3.256" "bo" (Source.ofWords [0]) =
          (.error fault, failed, after) := ⟨_, _, _, rfl⟩
  obtain ⟨fault, failed, after, h⟩ := refused
  have can : openInbound.CanMakeClient Link.plainManner := ⟨⟨5000, rfl⟩, .vless, rfl⟩
  obtain ⟨c, -, -, email, -, clients, -⟩ := (failed_enrolment h).2 can
  exact ⟨fault, failed, after, h, c, email, clients⟩

end Inbound
end ShareLinks
