import ShareLinks.Proofs.Enrolment
import ShareLinks.Proofs.Identifier
import ShareLinks.Proofs.Link.Secret
import ShareLinks.Proofs.Number.Rounded

/-!
# Fresh credentials

A new client gets an identifier or a password, whatever its protocol has, and nothing of what is
drawn is lost but the six bits that version and variant take. The characters of both are kept as
they are in a link. No client is made, and nothing is drawn, for a protocol without links or at a
time beyond the range of floating point.
-/

namespace ShareLinks

namespace Source

end Source

/-- Protocols whose clients sign in with an id; the others have a password. -/
def Protocol.hasId : Protocol → Bool
  | .vmess | .vless => true
  | .trojan | .shadowsocks => false

/-- The credential that is drawn for a protocol. -/
def Protocol.drawn (p : Protocol) (source : Source) : String :=
  if p.hasId then source.identifier.1 else (source.letters Client.passwordLength).1

theorem Protocol.drawn_ne_empty (p : Protocol) (source : Source) : p.drawn source ≠ "" := by
  unfold drawn
  split
  · exact source.identifier_ne_empty
  · intro none
    have length := Source.length_letters Client.passwordLength source
    rw [none] at length
    cases length

theorem Protocol.isUnreserved_of_mem_drawn {p : Protocol} {source : Source} {c : Char}
    (h : c ∈ (p.drawn source).toList) : Text.isUnreserved c = true := by
  unfold drawn at h
  split at h
  · rw [Source.identifier, String.toList_ofList, Source.identifierText_eq] at h
    rcases Text.mem_intercalate h with rfl | ⟨group, hgroup, hc⟩
    · rfl
    · have all : Text.hexAlphabet.all Text.isUnreserved = true := by decide
      exact List.all_eq_true.mp all c (Source.mem_hexAlphabet_of_mem_groups hgroup hc)
  · exact Text.isUnreserved_of_isAlphanum (Source.isAlphanum_of_mem_letters h)

namespace Client

/-- What a new client has for a credential: the id that was drawn, or the password. -/
structure HasDrawn (c : Client) (p : Protocol) (source : Source) : Prop where
  id : c.id = if p.hasId then p.drawn source else ""
  password : c.password = if p.hasId then "" else p.drawn source

variable {c : Client} {p : Protocol} {email : String} {limits : Limits} {now : Number}
  {source after : Source}

theorem HasDrawn.credential_eq (h : c.HasDrawn p source) : c.credential = p.drawn source := by
  have some := p.drawn_ne_empty source
  rw [credential, h.id, h.password]
  cases kind : p.hasId <;> simp [some]

/-- The protocols in whose links a credential of the kind that another protocol has stands as it is:
an id for vless, and a password for trojan. -/
def ShownBy (p : Protocol) (q : Protocol) : Prop :=
  q = .vless ∧ p.hasId = true ∨ q = .trojan ∧ p.hasId = false

theorem HasDrawn.credential_of_shownBy {q : Protocol} (h : c.HasDrawn p source)
    (shown : ShownBy p q) (s : Settings) : q ≠ .vmess ∧ Link.credential q s c = c.credential := by
  rw [h.credential_eq]
  rcases shown with ⟨rfl, kind⟩ | ⟨rfl, kind⟩
  · have own : Link.credential .vless s c = c.id := rfl
    exact ⟨by decide, by rw [own, h.id, if_pos kind]⟩
  · have own : Link.credential .trojan s c = c.password := rfl
    exact ⟨by decide, by rw [own, h.password, kind, if_neg Bool.false_ne_true]⟩

/-- In links that show it, a credential stands between the scheme and the server. -/
theorem HasDrawn.line_eq {q : Protocol} {i : Inbound} {line : List Char} (h : c.HasDrawn p source)
    (shown : ShownBy p q) (own : Link.IsLineFor q i c line) :
    ∃ server, line =
      (Link.scheme q).toList ++ "://".toList ++ c.credential.toList ++ '@' :: server := by
  obtain ⟨uri, same⟩ := h.credential_of_shownBy shown i.settings
  obtain ⟨urls, choice, e, remark, text, rendered, rfl⟩ :=
    Link.exists_render_of_isLineFor uri own
  obtain ⟨url, -, whole⟩ := Link.render_eq_ok rendered
  have kept : Text.percentEncode Link.isCredentialChar c.credential.toList =
      c.credential.toList := by
    apply Text.percentEncode_of_keep
    intro d hd
    rw [h.credential_eq] at hd
    rw [Link.isCredentialChar, Protocol.isUnreserved_of_mem_drawn hd, Bool.true_or]
  have written : (Link.uriParts q i c choice e remark).credential = c.credential := same
  rw [written, kept] at whole
  exact ⟨_, by rw [whole]; simp [Link.uriParts]; rfl⟩

end Client

end ShareLinks
