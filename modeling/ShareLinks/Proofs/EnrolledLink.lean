import ShareLinks.Proofs.Enrolment
import ShareLinks.Proofs.Json.RoundTrip
import ShareLinks.Proofs.Link.Credential
import ShareLinks.Proofs.Source

/-!
# Whom the link of an enrolment is for

The link is written for the first client with the email, which is the new one only where the
email was free. The credential and the settings that are given beside it are always those of the
new client.
-/

namespace ShareLinks

namespace Client

open Link (signIn behindColons_of_not_mem)

theorem signIn_withCredential {c : Client} (noId : c.id = "") (p : Protocol) (source : Source) :
    signIn p (c.withCredential p source).1 = (c.withCredential p source).1.credential.toList := by
  have id : (source.identifier).1.isEmpty = false := by
    simpa using source.identifier_ne_empty
  cases p with
  | vmess => simp [signIn, withCredential, credential, id]
  | vless => simp [signIn, withCredential, credential, id]
  | trojan => simp [signIn, withCredential, credential, noId]
  | shadowsocks =>
    have colon := source.colon_not_mem_letters passwordLength
    simp [signIn, withCredential, credential, noId, behindColons_of_not_mem colon]

theorem signIn_generate {protocol email : String} {limits : Limits} {now : Number}
    {source after : Source} {c : Client} {p : Protocol}
    (known : Protocol.ofName? protocol = some p)
    (h : generate protocol email limits now source = (.ok c, after)) :
    signIn p c = c.credential.toList := by
  obtain ⟨madeAt, p', -, known', made⟩ := generate_eq_ok h
  obtain rfl : p = p' := Option.some.inj (known.symm.trans known')
  have signs := signIn_withCredential (c := blank email limits madeAt) rfl p source
  rwa [made] at signs

end Client

namespace Settings

/-- The credential of the last client in stored settings. -/
def lastCredential? (stored : List Char) : Option String := do
  let doc ← (Json.parse stored).toOption
  let last ← (doc.field "clients").items.getLast?
  let c ← (Client.ofJson last).toOption
  pure c.credential

theorem lastCredential?_add (s : Settings) {c : Client} (limits : c.HasIntegerLimits)
    (writable : (s.add c).toJson.isWritable = true) :
    lastCredential? ((s.add c).toJson.render Json.compact).toList = some c.credential := by
  have parsed : Json.parse ((s.add c).toJson.render Json.compact).toList =
      .ok (s.add c).toJson.normal := by
    rw [Json.render, String.toList_ofList]
    exact Json.parse_text _ writable
  have last : ((s.add c).toJson.normal.field "clients").items.getLast? = some c.toJson := by
    rw [clients_of_normal_toJson, clients_add, List.map_append]
    exact List.getLast?_concat
  simp only [lastCredential?, parsed, last, Client.ofJson_toJson limits, Except.toOption,
    Option.bind_eq_bind, Option.bind_some]
  rfl

/-- The client found by the email of a new one is the one found before, if there was one. -/
theorem find?_add (s : Settings) (c : Client) :
    (s.add c).find? c.email = some ((s.find? c.email).getD c) := by
  cases found : s.find? c.email with
  | some old => exact find?_add_of_find? found c
  | none =>
    rw [find?] at found
    simp [find?, List.find?_append, found]

end Settings

namespace Inbound

open Link (carried? signIn)

variable {i : Inbound} {p : Protocol} {manner : Link.Manner} {address email : String}
  {source after : Source}

/-- A link to a client that is found is not empty, and every line of it carries what the client
signs in with. -/
theorem link_carries {c : Client} {text : String}
    (lawful : p ≠ .vmess → manner.urls.Lawful) (protocol : i.protocol? = some p)
    (found : i.settings.find? email = some c)
    (h : i.link manner address email source = (.ok text, after)) :
    text ≠ "" ∧ ∀ line ∈ Text.splitOn (· == '\n') text.toList,
      carried? p line = some (signIn p c) := by
  obtain ⟨written, lines, rfl, -⟩ := link_eq_ok protocol found h
  have carries := Link.carried?_of_lines lawful lines
  refine ⟨fun none => ?_, carries⟩
  rw [none] at carries
  have empty := carries [] (by simp)
  rw [Link.carried?_nil] at empty
  cases empty

/-- An enrolment gives the credential of the client that it made, and settings that end in this
client. Its link is not empty, and every line of it carries that credential exactly where the
first client that had the email, if there was one, signs in with it too. -/
theorem enrolled_link_carries_credential_iff {e : Enrolment} {enrolled : Inbound}
    (lawful : p ≠ .vmess → manner.urls.Lawful) (protocol : i.protocol? = some p)
    (h : i.enrol manner address email source = (.ok e, enrolled, after)) :
    e.link ≠ "" ∧ Settings.lastCredential? e.settings.toList = some e.credential ∧
      ((∀ line ∈ Text.splitOn (· == '\n') e.link.toList,
          carried? p line = some e.credential.toList) ↔
        ∀ old, i.settings.find? email = some old → signIn p old = e.credential.toList) := by
  obtain ⟨c, next, text, made, rfl, linked, writable, rfl⟩ := enrol_eq_ok h
  have new := isNew_newClient made
  have signs : signIn p c = c.credential.toList := Client.signIn_generate protocol made
  have found : (i.addClient c).settings.find? email =
      some ((i.settings.find? email).getD c) := by
    rw [← new.email]
    exact i.settings.find?_add c
  obtain ⟨nonempty, carries⟩ := link_carries (i := i.addClient c) lawful protocol found linked
  refine ⟨nonempty, i.settings.lastCredential?_add new.limits writable, ?_⟩
  constructor
  · intro carried old taken
    obtain ⟨line, hline⟩ :=
      List.exists_mem_of_ne_nil _ (Text.splitOn_ne_nil (· == '\n') text.toList)
    have same := (carries line hline).symm.trans (carried line hline)
    rw [taken, Option.getD_some] at same
    exact Option.some.inj same
  · intro agrees line hline
    rw [carries line hline]
    cases taken : i.settings.find? email with
    | none => rw [Option.getD_none, signs]
    | some old => rw [Option.getD_some, agrees old taken]

/-- The link of a second enrolment is for the first client, beside the credential of the second. -/
theorem taken_email_links_to_first :
    ∃ e enrolled after,
      openInbound.enrol Link.plainManner "a.example" "ada" (Source.ofWords [0]) =
          (.ok e, enrolled, after) ∧
        e.link = "vless://k1@a.example:443?type=tcp&security=none#ada" ∧
        e.credential = "00000000-0000-4000-8000-000000000000" ∧
        Settings.lastCredential? e.settings.toList = some e.credential ∧
        ¬ ∀ line ∈ Text.splitOn (· == '\n') e.link.toList,
          carried? .vless line = some e.credential.toList := by
  have enrolment : ∃ e enrolled after,
      openInbound.enrol Link.plainManner "a.example" "ada" (Source.ofWords [0]) =
          (.ok e, enrolled, after) ∧
        e.link = "vless://k1@a.example:443?type=tcp&security=none#ada" ∧
        e.credential = "00000000-0000-4000-8000-000000000000" := ⟨_, _, _, rfl, rfl, rfl⟩
  obtain ⟨e, enrolled, after, h, link, credential⟩ := enrolment
  obtain ⟨-, last, carries⟩ := enrolled_link_carries_credential_iff (p := .vless)
    (fun _ => Link.lawful_plainManner) rfl h
  refine ⟨e, enrolled, after, h, link, credential, last, fun all => ?_⟩
  have agrees := carries.mp all { email := "ada", id := "k1" } rfl
  rw [credential] at agrees
  exact absurd agrees (by decide)

end Inbound
end ShareLinks
