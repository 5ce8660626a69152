import ShareLinks.Proofs.Link.Presence

/-!
# What keeps a link from being written

A line fails for its remark, for the size of its query, for a port that has no numeral, or for what
is given as the host of an endpoint, and a link fails as one of its lines does. A plain host name is
never in the way.
-/

namespace ShareLinks

namespace Json

theorem haveWritable_of_forall {fields : Fields} (h : ∀ field ∈ fields, field.2.isWritable = true) :
    haveWritable fields = true := by
  induction fields with
  | nil => rfl
  | cons field fields ih =>
    obtain ⟨first, rest⟩ := List.forall_mem_cons.mp h
    rw [haveWritable, first, ih rest]
    rfl

theorem write_eq_error {style : Style} {value : Json} {fault : Fault}
    (h : value.write style = .error fault) :
    fault = .integerTooLong Text.maxDigits ∧ ¬ value.isWritable = true := by
  unfold write at h
  split at h
  · cases h
  · next overlong => exact ⟨(Except.error.inj h).symm, overlong⟩

end Json

namespace Link

theorem Vmess.isWritable_description {i : Inbound} {c : Client} {e : Endpoint} {remark : String}
    (port : Text.isReadable e.port = true) :
    (Json.object (description i c e remark)).isWritable = true := by
  apply Json.haveWritable_of_forall
  intro field hfield
  have assigned := (mem_setAll hfield).resolve_left List.not_mem_nil
  have tls : ∀ field ∈ tlsFields i.stream e.forceTls, field.2.isWritable = true := by
    intro field h
    unfold tlsFields at h
    split at h
    · rcases List.mem_append.mp h with h | h <;>
        (obtain ⟨_, -, rfl⟩ := List.mem_map.mp h; rfl)
    · cases h
  simp only [assignments, List.mem_append, List.mem_cons, List.not_mem_nil, or_false,
    List.mem_map] at assigned
  rcases assigned with (((h | ⟨_, -, rfl⟩) | rfl) | h) | h
  · rcases h with rfl | rfl | rfl | rfl | rfl
    case inr.inr.inl => exact port
    all_goals rfl
  · rfl
  · rfl
  · exact tls field h
  · rcases h with rfl | rfl | rfl <;> rfl

/-- What is in the way of the line to a target, with some query. -/
inductive Obstacle (i : Inbound) (manner : Manner) (email : String) (e : Endpoint)
    (query : Params) : Fault → Prop
  | remark {fault : Fault} (annotated : manner.showInfo = true)
      (failed : i.remarkText manner email e.remark = .error fault) :
      Obstacle i manner email e query fault
  | query (overlong : Host.maxPartLength < (Text.formEncodeAll query).length) :
      Obstacle i manner email e query (.partTooLong .query)
  | port (overlong : ¬ Text.isReadable e.port = true) :
      Obstacle i manner email e query (.integerTooLong Text.maxDigits)
  | host {fault : Fault} {scheme : String} (front : e ∈ i.stream.endpoints)
      (refused : manner.urls.make scheme e.dest e.port query = .error fault) :
      Obstacle i manner email e query fault

/-- Remarks only fail where they say what is left of quota and time. -/
theorem showInfo_of_remarkText {i : Inbound} {manner : Manner} {email extra : String}
    {fault : Fault} (h : i.remarkText manner email extra = .error fault) :
    manner.showInfo = true := by
  by_contra off
  rw [Inbound.remarkText, Remark.text, if_neg off] at h
  cases h

theorem obstacle_of_line {p : Protocol} {i : Inbound} {c : Client}
    {choice : Option Reality.Choice} {manner : Manner} {e : Endpoint} {fault : Fault}
    (lawful : manner.urls.Lawful)
    (known : e ∈ i.stream.endpoints ∨ Host.IsPlainName e.dest)
    (h : line p i c choice manner e = .error fault) :
    Obstacle i manner c.email e (forced e.forceTls (params p i c choice)) fault := by
  rcases bind_eq_error_iff.mp h with remark | ⟨text, -, h⟩
  · exact .remark (showInfo_of_remarkText remark) remark
  by_cases vmess : p = .vmess
  · subst vmess
    rcases bind_eq_error_iff.mp h with unwritten | ⟨_, -, h⟩
    · obtain ⟨rfl, overlong⟩ := Json.write_eq_error unwritten
      exact .port fun port => overlong (Vmess.isWritable_description port)
    · cases h
  · have made : (uriParts p i c choice e text).render manner.urls = .error fault := by
      cases p with
      | vmess => exact absurd rfl vmess
      | _ => exact h
    rcases bind_eq_error_iff.mp made with refused | ⟨_, -, made⟩
    · rcases known with front | plain
      · exact .host front refused
      · rcases lawful.name plain refused with ⟨rfl, overlong⟩ | ⟨rfl, overlong⟩
        · exact .port overlong
        · exact .query overlong
    · cases made

end Link

namespace Inbound

open Link

variable {i : Inbound} {manner : Manner} {address email : String} {source : Source} {fault : Fault}

/-- Something is in the way of a line of the link to the client with an email. -/
def IsObstructed (i : Inbound) (manner : Manner) (address email : String) (source : Source)
    (fault : Fault) : Prop :=
  ∃ p c e, i.protocol? = some p ∧ i.settings.find? email = some c ∧
    (e ∈ i.stream.endpoints ∨
      i.stream.endpoints = [] ∧ e = { dest := address, port := i.port }) ∧
    Obstacle i manner email e (forced e.forceTls (params p i c (choose p i.stream source).1)) fault

/-- A link fails for what is in the way of one of its lines. A plain host name as the address of the
server is not. -/
theorem isObstructed_of_link (lawful : manner.urls.Lawful) (plain : Host.IsPlainName address)
    (h : (i.link manner address email source).1 = .error fault) :
    i.IsObstructed manner address email source fault := by
  by_cases nobody : i.HasNobody email
  · rw [link_of_hasNobody nobody] at h
    cases h
  obtain ⟨p, c, name, found⟩ := exists_client_of_not_hasNobody nobody
  have protocol : i.protocol? = some p := Protocol.ofName?_eq_some_iff.mpr name
  rw [link_of_client protocol found, map_eq_error_iff] at h
  obtain ⟨before, e, after, split, -, fails⟩ := mapM_eq_error_iff.mp h
  have target : e ∈ i.stream.endpoints ∨
      i.stream.endpoints = [] ∧ e = { dest := address, port := i.port } := by
    have mem : e ∈ targets i address := by
      rw [split]
      exact List.mem_append_right _ List.mem_cons_self
    unfold targets at mem
    split at mem
    · next none => exact .inr ⟨List.isEmpty_iff.mp none, List.mem_singleton.mp mem⟩
    · exact .inl mem
  refine ⟨p, c, e, protocol, found, target, ?_⟩
  rw [← Settings.email_of_find? found]
  refine obstacle_of_line lawful (target.imp_right ?_) fails
  rintro ⟨-, rfl⟩
  exact plain

end Inbound
end ShareLinks
