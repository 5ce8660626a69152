import ShareLinks.Proofs.Host.Library
import ShareLinks.Proofs.Link.Credential

/-!
# The secret in a shadowsocks link

What a client of shadowsocks signs in with is put together of a cipher and one or two passwords,
with colons between them, and is then encoded and escaped. It is taken apart again at its first
colons, so the cipher, and the password of the inbound where it takes part, have to be without
one; the password of the client may be any text.
-/

namespace ShareLinks

open Text

/-- The parts of a secret: the cipher, the password of the inbound if the cipher takes it, and the
password of the client. -/
structure Secret where
  method : List Char
  shared : Option (List Char)
  own : List Char
  deriving DecidableEq

namespace Secret

/-- A cipher that takes the password of the inbound. -/
def TakesShared (method : List Char) : Prop :=
  method.head? = some '2'

instance (method : List Char) : Decidable (TakesShared method) :=
  inferInstanceAs (Decidable (_ = _))

/-- The parts with a colon between each two. -/
def text (s : Secret) : List Char :=
  s.method ++ ':' :: (match s.shared with
    | some password => password ++ ':' :: s.own
    | none => s.own)

/-- Takes a secret apart at its first colon, or at the first two behind a cipher that takes the
password of the inbound. -/
def read? (cs : List Char) : Option Secret :=
  match cut ':' cs with
  | (_, none) => none
  | (method, some rest) =>
    if TakesShared method then
      match cut ':' rest with
      | (_, none) => none
      | (password, some own) => some ⟨method, some password, own⟩
    else some ⟨method, none, rest⟩

/-- The parts can be told apart: there is no colon before the last of them, and the password of the
inbound is there just where the cipher takes it. -/
structure IsSeparable (s : Secret) : Prop where
  method : ':' ∉ s.method
  shared : ∀ password ∈ s.shared, ':' ∉ password
  takes : s.shared.isSome = true ↔ TakesShared s.method

theorem read?_text {s : Secret} (h : s.IsSeparable) : read? s.text = some s := by
  obtain ⟨method, shared, own⟩ := s
  obtain ⟨plain, plainShared, takes⟩ := h
  rw [read?, text, cut_append plain]
  cases shared with
  | none =>
    have alone : ¬ TakesShared method := fun h => by cases takes.mpr h
    exact if_neg alone
  | some password =>
    have both : TakesShared method := takes.mp rfl
    simp only [if_pos both, cut_append (plainShared password rfl)]

/-- What a client signs in with under some settings. -/
def ofClient (s : Settings) (c : Client) : Secret where
  method := s.method.toList
  shared := if TakesShared s.method.toList then some s.password.toList else none
  own := c.password.toList

theorem text_ofClient (s : Settings) (c : Client) :
    (ofClient s c).text = (Link.shadowsocksSecret s c).toList := by
  rw [Link.shadowsocksSecret, ofClient, text]
  by_cases takes : s.method.toList.head? = some '2'
  · rw [if_pos takes, if_pos (show TakesShared _ from takes)]
    simp
  · rw [if_neg takes, if_neg (show ¬ TakesShared _ from takes)]
    simp

/-- Settings under which every secret can be taken apart, whatever the password of the client. -/
structure ColonFree (s : Settings) : Prop where
  method : ':' ∉ s.method.toList
  password : TakesShared s.method.toList → ':' ∉ s.password.toList

theorem isSeparable_ofClient {s : Settings} (h : ColonFree s) (c : Client) :
    (ofClient s c).IsSeparable := by
  refine ⟨h.method, fun password given => ?_, ?_⟩
  · obtain ⟨takes, same⟩ := Option.mem_ite_none_right.mp given
    rw [← Option.mem_some.mp same]
    exact h.password takes
  · rw [ofClient]
    split <;> simpa

end Secret

namespace Link

/-- A line of a link in the form of a protocol, for a client of an inbound. -/
def IsLineFor (p : Protocol) (i : Inbound) (c : Client) (line : List Char) : Prop :=
  ∃ (manner : Link.Manner) (address email : String) (source : Source) (text : String),
    manner.urls.Lawful ∧ i.protocol = p.name ∧ i.settings.find? email = some c ∧
      (i.linkOf p manner address email source).1 = .ok text ∧
      line ∈ splitOn (· == '\n') text.toList

/-- A line of a URI link is written from the parts for an endpoint. -/
theorem exists_render_of_isLineFor {p : Protocol} {i : Inbound} {c : Client} {line : List Char}
    (uri : p ≠ .vmess) (h : IsLineFor p i c line) :
    ∃ urls choice e remark text, (uriParts p i c choice e remark).render urls = .ok text ∧
      text.toList = line := by
  obtain ⟨manner, address, email, source, text, lawful, name, found, wrote, hline⟩ := h
  simp only [Inbound.linkOf, if_pos name, found] at wrote
  obtain ⟨written, lines, rfl⟩ := map_eq_ok_iff.mp wrote
  rw [splitOn_lines (fun _ => lawful) lines] at hline
  obtain ⟨piece, hpiece, rfl⟩ := List.mem_map.mp hline
  obtain ⟨e, -, line⟩ := exists_of_mem_mapM lines hpiece
  obtain ⟨remark, -, -, rendered⟩ := line_eq_ok line
  exact ⟨manner.urls, _, e, remark, piece, rendered uri, rfl⟩

/-- What stands in front of the server of a URI line is read as the credential. -/
theorem userinfo?_of_isLineFor {p : Protocol} {i : Inbound} {c : Client} {line : List Char}
    (uri : p ≠ .vmess) (h : IsLineFor p i c line) :
    userinfo? line = some (credential p i.settings c).toList := by
  obtain ⟨urls, choice, e, remark, text, rendered, rfl⟩ := exists_render_of_isLineFor uri h
  exact userinfo?_of_render rendered (scheme_plain p).1

theorem textOfBase64?_secret (s : Settings) (c : Client) :
    textOfBase64? (credential .shadowsocks s c).toList = some (Secret.ofClient s c).text := by
  rw [credential, String.toList_ofList, textOfBase64?_encode, Secret.text_ofClient]

/-- Every line of a shadowsocks link gives back the cipher and the passwords that its client signs
in with: they are what stands in front of the server, unescaped, decoded and taken apart. Two lines,
of whichever inbounds and clients, have the same there exactly where these are the same. -/
theorem secret_of_shadowsocks_line {i : Inbound} {c : Client} {line : List Char}
    (h : IsLineFor .shadowsocks i c line) (plain : Secret.ColonFree i.settings) :
    (∃ user text, userinfo? line = some user ∧ textOfBase64? user = some text ∧
      Secret.read? text = some (Secret.ofClient i.settings c)) ∧
    ∀ {j : Inbound} {d : Client} {other : List Char}, IsLineFor .shadowsocks j d other →
      Secret.ColonFree j.settings →
      (userinfo? line = userinfo? other ↔
        Secret.ofClient i.settings c = Secret.ofClient j.settings d) := by
  have read {j : Inbound} {d : Client} (plain : Secret.ColonFree j.settings) :
      Secret.read? (Secret.ofClient j.settings d).text = some (Secret.ofClient j.settings d) :=
    Secret.read?_text (Secret.isSeparable_ofClient plain d)
  have user := userinfo?_of_isLineFor (by decide) h
  refine ⟨⟨_, _, user, textOfBase64?_secret _ _, read plain⟩, fun {j d other} h' plain' => ?_⟩
  rw [user, userinfo?_of_isLineFor (by decide) h', Option.some.injEq]
  constructor
  · intro same
    have texts := congrArg textOfBase64? same
    rw [textOfBase64?_secret, textOfBase64?_secret, Option.some.injEq] at texts
    have secrets := congrArg Secret.read? texts
    rwa [read plain, read plain', Option.some.injEq] at secrets
  · intro same
    have texts := congrArg Secret.text same
    rw [Secret.text_ofClient, Secret.text_ofClient] at texts
    rw [credential, credential, texts]

/-- Two clients of a cipher that takes the password of the inbound. -/
def sharedCipher : Inbound :=
  { port := 8388
    protocol := "shadowsocks"
    settings :=
      { method := "2022-x"
        password := "k"
        clients := [{ email := "ada", password := "a:??" }, { email := "bo", password := "ü>" }] }
    stream := { network := "tcp" } }

/-- The line of the link to the first of them, with a slash of base64 escaped. -/
def sharedCipherLine : List Char :=
  "ss://MjAyMi14Oms6YTo%2FPw==@ex.org:8388?type=tcp&security=none#ada".toList

/-- A password with a colon comes back, and the line of the other client has something else in front
of its server. -/
theorem shared_cipher_lines_differ :
    IsLineFor .shadowsocks sharedCipher { email := "ada", password := "a:??" } sharedCipherLine ∧
      Secret.ColonFree sharedCipher.settings ∧
      (∃ user text, userinfo? sharedCipherLine = some user ∧ textOfBase64? user = some text ∧
        Secret.read? text = some ⟨"2022-x".toList, some "k".toList, "a:??".toList⟩) ∧
      ∃ other, IsLineFor .shadowsocks sharedCipher { email := "bo", password := "ü>" } other ∧
        userinfo? sharedCipherLine ≠ userinfo? other := by
  have first : IsLineFor .shadowsocks sharedCipher { email := "ada", password := "a:??" }
      sharedCipherLine :=
    ⟨Link.plainManner, "ex.org", "ada", Source.ofWords [0], _, lawful_plainManner, rfl, rfl, rfl,
      by decide⟩
  have second : IsLineFor .shadowsocks sharedCipher { email := "bo", password := "ü>" }
      "ss://MjAyMi14Oms6w7w+@ex.org:8388?type=tcp&security=none#bo".toList :=
    ⟨Link.plainManner, "ex.org", "bo", Source.ofWords [0], _, lawful_plainManner, rfl, rfl, rfl,
      by decide⟩
  have plain : Secret.ColonFree sharedCipher.settings := ⟨by decide, by decide⟩
  obtain ⟨read, same⟩ := secret_of_shadowsocks_line first plain
  refine ⟨first, plain, read, _, second, fun equal => ?_⟩
  exact absurd ((same second plain).mp equal) (by decide)

end Link
end ShareLinks
