import ShareLinks.Proofs.Link.FanOut
import ShareLinks.Proofs.Regular

/-!
# When there is a link, and its lines

There is a link for every client of an inbound whose protocol has links, and an empty one for
nobody else. A link has a line for each endpoint that stands in the record, or a single one where
none does, and a line is printable ASCII behind the scheme of the protocol, whatever text the
record holds.
-/

namespace ShareLinks

namespace Link

end Link

namespace Inbound

open Link

variable {i : Inbound} {p : Protocol} {manner : Manner} {address email : String}
  {source after : Source}

/-- There is nobody whom a link could be for: the protocol has no links, or no client has the
email. -/
def HasNobody (i : Inbound) (email : String) : Prop :=
  (∀ p : Protocol, i.protocol ≠ p.name) ∨ ∀ c ∈ i.settings.clients, c.email ≠ email

theorem link_of_hasNobody (h : i.HasNobody email) (manner : Manner) (address : String)
    (source : Source) : i.link manner address email source = (.ok "", source) := by
  unfold link
  cases protocol : i.protocol? with
  | none => rfl
  | some p =>
    have name := Protocol.ofName?_eq_some_iff.mp protocol
    have absent : i.settings.find? email = none := by
      apply List.find?_eq_none.mpr
      intro c hc same
      exact h.elim (fun no => no p name) fun no => no c hc (beq_iff_eq.mp same)
    simp only [linkOf, if_pos name, absent]

theorem exists_client_of_not_hasNobody (h : ¬ i.HasNobody email) :
    ∃ p c, i.protocol = Protocol.name p ∧ i.settings.find? email = some c := by
  obtain ⟨known, client⟩ := not_or.mp h
  push Not at known client
  obtain ⟨p, name⟩ := known
  obtain ⟨c, found⟩ := exists_find?_of_mem client
  exact ⟨p, c, name, found⟩

end Inbound
end ShareLinks
