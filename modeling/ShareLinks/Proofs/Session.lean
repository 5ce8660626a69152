import ShareLinks.Proofs.Enrolment

/-!
# Sessions with an inbound

An inbound is used by calls, one after another, some of which change it and some of which fail.
However they follow each other, nobody who is in its list of clients is changed or moves, and at
most one client comes behind them at a time. So an email that is found keeps its place, and its
link keeps belonging to the same client, even when other clients with the same email are added.
-/

namespace ShareLinks

namespace Settings

variable {s later : Settings} {email : String} {k : Nat}

/-- A place, or none, is where the first of some clients with an email stands. -/
def IsFirstPlace (clients : List Client) (email : String) : Option Nat → Prop
  | some k => (∃ c, clients[k]? = some c ∧ c.email = email) ∧
      ∀ j < k, ∀ c, clients[j]? = some c → c.email ≠ email
  | none => ∀ c ∈ clients, c.email ≠ email

theorem isFirstPlace_indexOf? (s : Settings) (email : String) :
    IsFirstPlace s.clients email (s.indexOf? email) := by
  cases found : s.indexOf? email with
  | none =>
    intro c hc same
    have other := List.findIdx?_eq_none_iff.mp found c hc
    rw [same, beq_self_eq_true] at other
    cases other
  | some k =>
    obtain ⟨bound, same, before⟩ := List.findIdx?_eq_some_iff_getElem.mp found
    refine ⟨⟨s.clients[k], List.getElem?_eq_getElem bound, beq_iff_eq.mp same⟩, ?_⟩
    intro j hj c hc same
    obtain ⟨bound', rfl⟩ := List.getElem?_eq_some_iff.mp hc
    exact before j hj (beq_iff_eq.mpr same)

/-- Clients behind others do not come before them. -/
theorem indexOf?_of_prefix (grown : s.clients <+: later.clients)
    (found : s.indexOf? email = some k) : later.indexOf? email = some k := by
  obtain ⟨added, same⟩ := grown
  rw [indexOf?] at found
  rw [indexOf?, ← same, List.findIdx?_append, found, Option.some_or]

theorem find?_of_prefix {c : Client} (grown : s.clients <+: later.clients)
    (found : s.find? email = some c) : later.find? email = some c := by
  obtain ⟨added, same⟩ := grown
  rw [find?] at found
  rw [find?, ← same, List.find?_append, found, Option.some_or]

/-- Who stands at the place of an email is who is found by it. -/
theorem find?_of_indexOf? (found : s.indexOf? email = some k) :
    ∃ c, s.clients[k]? = some c ∧ s.find? email = some c := by
  obtain ⟨bound, -⟩ := List.findIdx?_eq_some_iff_getElem.mp found
  have there := List.getElem?_eq_getElem bound
  refine ⟨s.clients[k], there, ?_⟩
  rw [indexOf?] at found
  rw [find?, List.find?_eq_bind_findIdx?_getElem?, found, Option.bind_some, there]

end Settings

/-- A call on an inbound. Calls that write links or remarks each have a manner of their own, and
those that draw a random source. -/
inductive Call where
  | enrol (manner : Link.Manner) (address email : String) (source : Source)
  | addClient (c : Client)
  | link (manner : Link.Manner) (address email : String) (source : Source)
  | linkOf (p : Protocol) (manner : Link.Manner) (address email : String) (source : Source)
  | findClient (email : String)
  | indexOf (email : String)
  | remark (manner : Remark.Manner) (email extra : String)
  | settingsText (style : Json.Style)
  | addTraffic (t : Traffic)
  | addEndpoint (e : Endpoint)

/-- What a call returns. -/
inductive Answer where
  | nothing
  | enrolled (e : Enrolment)
  | text (s : String)
  | client (found : Option Client)
  | place (found : Option Nat)

namespace Inbound

/-- What comes of a call, and the inbound after it. -/
def perform (i : Inbound) : Call → Except Fault Answer × Inbound
  | .enrol manner address email source =>
    let (outcome, enrolled, _) := i.enrol manner address email source
    (outcome.map .enrolled, enrolled)
  | .addClient c => (.ok .nothing, { i with settings := i.settings.add c })
  | .link manner address email source =>
    ((i.link manner address email source).1.map .text, i)
  | .linkOf p manner address email source =>
    ((i.linkOf p manner address email source).1.map .text, i)
  | .findClient email => (.ok (.client (i.settings.find? email)), i)
  | .indexOf email => (.ok (.place (i.settings.indexOf? email)), i)
  | .remark manner email extra => ((i.remarkText manner email extra).map .text, i)
  | .settingsText style => ((i.settings.toJson.write style).map .text, i)
  | .addTraffic t => (.ok .nothing, { i with stats := i.stats ++ [t] })
  | .addEndpoint e =>
    (.ok .nothing, { i with stream := { i.stream with endpoints := i.stream.endpoints ++ [e] } })

/-- The inbound after some calls, whatever came of them. -/
def run (i : Inbound) (calls : List Call) : Inbound :=
  calls.foldl (fun i call => (i.perform call).2) i

variable {i : Inbound}

theorem run_cons (i : Inbound) (call : Call) (calls : List Call) :
    i.run (call :: calls) = (i.perform call).2.run calls := rfl

theorem run_append (i : Inbound) (before after : List Call) :
    i.run (before ++ after) = (i.run before).run after := List.foldl_append

/-- Enrolling adds a client with the email, or it fails and adds nobody. -/
theorem clients_enrol (i : Inbound) (manner : Link.Manner) (address email : String)
    (source : Source) :
    ((∃ fault, (i.enrol manner address email source).1 = .error fault) ∧
      (i.enrol manner address email source).2.1 = i) ∨
    ∃ c, c.email = email ∧ (i.enrol manner address email source).2.1.settings.clients =
      i.settings.clients ++ [c] := by
  cases made : i.newClient manner email source with
  | mk outcome next =>
    cases outcome with
    | error fault =>
      rw [enrol_of_error made]
      exact .inl ⟨⟨fault, rfl⟩, rfl⟩
    | ok c =>
      rw [enrol_of_ok made]
      exact .inr ⟨c, (isNew_newClient made).email, rfl⟩

/-- What one call does to the clients: it adds at most one, behind the others. -/
theorem clients_perform (i : Inbound) (call : Call) :
    (i.perform call).2.settings.clients = i.settings.clients ∨
      ∃ c, (i.perform call).2.settings.clients = i.settings.clients ++ [c] := by
  cases call with
  | enrol manner address email source =>
    rcases i.clients_enrol manner address email source with ⟨-, same⟩ | ⟨c, -, added⟩
    · exact .inl (congrArg (·.settings.clients) same)
    · exact .inr ⟨c, added⟩
  | addClient c => exact .inr ⟨c, rfl⟩
  | link | linkOf | findClient | indexOf | remark | settingsText | addTraffic | addEndpoint =>
    exact .inl rfl

theorem prefix_perform (i : Inbound) (call : Call) :
    i.settings.clients <+: (i.perform call).2.settings.clients := by
  rcases i.clients_perform call with same | ⟨c, added⟩
  · exact ⟨[], by rw [same, List.append_nil]⟩
  · exact ⟨[c], added.symm⟩

/-- However many calls there are, nobody who was in the list is changed or moves. -/
theorem prefix_run (i : Inbound) (calls : List Call) :
    i.settings.clients <+: (i.run calls).settings.clients := by
  induction calls generalizing i with
  | nil => exact List.prefix_refl _
  | cons call calls ih =>
    rw [run_cons]
    exact (i.prefix_perform call).trans (ih _)

/-- An enrolment that returns has added a client with its email. -/
theorem clients_of_enrolled {manner : Link.Manner} {address email : String} {source : Source}
    {answer : Answer} (h : (i.perform (.enrol manner address email source)).1 = .ok answer) :
    ∃ c, c.email = email ∧ (i.perform (.enrol manner address email source)).2.settings.clients =
      i.settings.clients ++ [c] := by
  rcases i.clients_enrol manner address email source with ⟨⟨fault, fails⟩, -⟩ | added
  · have failed : (i.perform (.enrol manner address email source)).1 = .error fault := by
      show (i.enrol manner address email source).1.map _ = _
      rw [fails]
      rfl
    rw [failed] at h
    cases h
  · exact added

/-- At every call of a session the clients are those before it, unchanged and in their order, and at
most one more behind them; enrolling adds one with its email wherever it returns. Asking for the
place of an email always gives that of the first client who has it, and none if nobody does; and
once it is some place, it stays this place for the rest of the session, and who stands there stays
the client who is found by the email. -/
theorem clients_of_session (i : Inbound) (before : List Call) (call : Call) (after : List Call) :
    ((i.run (before ++ [call])).settings.clients = (i.run before).settings.clients ∨
      ∃ c, (i.run (before ++ [call])).settings.clients =
        (i.run before).settings.clients ++ [c]) ∧
    (∀ manner address email source answer, call = .enrol manner address email source →
      ((i.run before).perform call).1 = .ok answer →
      ∃ c, c.email = email ∧ (i.run (before ++ [call])).settings.clients =
        (i.run before).settings.clients ++ [c]) ∧
    (∀ email, ∃ found, ((i.run before).perform (.indexOf email)).1 = .ok (.place found) ∧
      Settings.IsFirstPlace (i.run before).settings.clients email found) ∧
    ∀ email k, ((i.run before).perform (.indexOf email)).1 = .ok (.place (some k)) →
      ((i.run (before ++ call :: after)).perform (.indexOf email)).1 = .ok (.place (some k)) ∧
        ∃ c, (i.run before).settings.clients[k]? = some c ∧
          ((i.run (before ++ call :: after)).perform (.findClient email)).1 =
            .ok (.client (some c)) := by
  have step : i.run (before ++ [call]) = ((i.run before).perform call).2 := run_append ..
  refine ⟨?_, ?_, fun email => ?_, fun email k asked => ?_⟩
  · rw [step]
    exact (i.run before).clients_perform call
  · rintro manner address email source answer rfl returned
    rw [step]
    exact clients_of_enrolled returned
  · exact ⟨_, rfl, Settings.isFirstPlace_indexOf? _ email⟩
  · have place : (i.run before).settings.indexOf? email = some k :=
      Answer.place.inj (Except.ok.inj asked)
    obtain ⟨c, there, found⟩ := Settings.find?_of_indexOf? place
    have grown := (i.run before).prefix_run (call :: after)
    rw [← run_append] at grown
    refine ⟨?_, c, there, ?_⟩
    · rw [perform, Settings.indexOf?_of_prefix grown place]
    · rw [perform, Settings.find?_of_prefix grown found]

/-- Enrolling a client at an address that its link cannot have. -/
def refusedCall : Call :=
  .enrol Link.plainManner "1.2.3.256" "bo" (Source.ofWords [0])

/-- Enrolling a client with the same email once more. -/
def repeatedCall : Call :=
  .enrol Link.plainManner "a.example" "bo" (Source.ofWords [1])

/-- A client whose enrolment failed keeps the place of its email, though two more with this email
come behind it. -/
theorem refused_client_keeps_place :
    (openInbound.perform refusedCall).1 = .error (.invalidIpv4 "1.2.3.256") ∧
      (openInbound.run
          [refusedCall, repeatedCall, .addClient { email := "bo" }]).settings.clients.map
        Client.email = ["ada", "bo", "bo", "bo"] ∧
      ((openInbound.run [refusedCall]).perform (.indexOf "bo")).1 = .ok (.place (some 1)) ∧
      ((openInbound.run [refusedCall, repeatedCall, .addClient { email := "bo" }]).perform
        (.indexOf "bo")).1 = .ok (.place (some 1)) := by
  have place : ((openInbound.run [refusedCall]).perform (.indexOf "bo")).1 =
      .ok (.place (some 1)) := rfl
  obtain ⟨-, -, -, stays⟩ :=
    clients_of_session openInbound [refusedCall] repeatedCall [.addClient { email := "bo" }]
  exact ⟨rfl, rfl, place, (stays "bo" 1 place).1⟩

end Inbound
end ShareLinks
