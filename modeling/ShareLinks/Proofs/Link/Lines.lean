import ShareLinks.Link.Basic
import ShareLinks.Proofs.Link.Reading
import ShareLinks.Proofs.Text.Base64

/-!
# The lines of a link

A link is a line for each of its targets. No line holds a line end, so splitting the link at line
ends gives the lines again.
-/

namespace ShareLinks

namespace Link

variable {p : Protocol} {i : Inbound} {c : Client} {choice : Option Reality.Choice}
  {manner : Manner}

theorem line_eq_ok {e : Endpoint} {text : String} (h : line p i c choice manner e = .ok text) :
    ∃ remark, i.remarkText manner c.email e.remark = .ok remark ∧
      (p = .vmess → Vmess.render (Vmess.description i c e remark) = .ok text) ∧
      (p ≠ .vmess → (uriParts p i c choice e remark).render manner.urls = .ok text) := by
  obtain ⟨remark, written, h⟩ := bind_eq_ok_iff.mp h
  refine ⟨remark, written, ?_, ?_⟩
  · rintro rfl
    exact h
  · intro uri
    cases p with
    | vmess => exact absurd rfl uri
    | _ => exact h

theorem isPrintable_scheme (p : Protocol) : Text.IsPrintable (scheme p).toList := by
  cases p <;> decide

/-- A scheme ends at its colon, and has no usual port that a URL would leave out. -/
theorem scheme_plain (p : Protocol) :
    ':' ∉ (scheme p).toList ∧ scheme p ∉ UrlLibrary.schemesWithPort := by
  cases p <;> decide

/-- A vmess line is its description in base64, where this can be written. -/
theorem vmess_eq_ok {fields : Fields} {text : String} (h : Vmess.render fields = .ok text) :
    ∃ written, (Json.object fields).write Vmess.style = .ok written ∧
      text.toList = "vmess://".toList ++
        Text.Base64.encode (Text.Utf8.encode written.toList) := by
  obtain ⟨written, wrote, h⟩ := bind_eq_ok_iff.mp h
  cases h
  exact ⟨written, wrote, String.toList_ofList⟩

theorem isPrintable_line (lawful : p ≠ .vmess → manner.urls.Lawful) {e : Endpoint} {text : String}
    (h : line p i c choice manner e = .ok text) : Text.IsPrintable text.toList := by
  obtain ⟨remark, -, vmess, uri⟩ := line_eq_ok h
  by_cases hp : p = .vmess
  · obtain ⟨written, -, whole⟩ := vmess_eq_ok (vmess hp)
    have front : Text.IsPrintable "vmess://".toList := by decide
    rw [whole]
    exact front.append (Text.isPrintable_base64 _)
  · exact isPrintable_render (lawful hp) (uri hp) (isPrintable_scheme p)

theorem targets_ne_nil (i : Inbound) (address : String) : targets i address ≠ [] := by
  unfold targets
  split
  · simp
  · next some =>
    intro none
    rw [none] at some
    exact some rfl

theorem splitOn_lines (lawful : p ≠ .vmess → manner.urls.Lawful) {address : String}
    {written : List String} (h : lines p i c choice manner address = .ok written) :
    Text.splitOn (· == '\n') (String.intercalate "\n" written).toList =
      written.map String.toList := by
  rw [String.toList_intercalate]
  refine Text.splitOn_intercalate (by decide) ?_ ?_
  · intro piece hpiece d hd
    obtain ⟨text, htext, rfl⟩ := List.mem_map.mp hpiece
    obtain ⟨e, -, line⟩ := exists_of_mem_mapM h htext
    rw [beq_eq_false_iff_ne]
    rintro rfl
    exact absurd (isPrintable_line lawful line _ hd) (by decide)
  · intro none
    have steps := mapM_eq_ok_iff.mp h
    rw [List.map_eq_nil_iff.mp none, List.forall₂_nil_right_iff] at steps
    exact targets_ne_nil i address steps

end Link

namespace Inbound

variable {i : Inbound} {manner : Link.Manner} {address email : String} {source : Source}
  {p : Protocol} {c : Client}

/-- The link to a client is its lines, written with what was drawn once for all of them. -/
theorem link_of_client (protocol : i.protocol? = some p) (found : i.settings.find? email = some c) :
    i.link manner address email source =
      ((Link.lines p i c (Link.choose p i.stream source).1 manner address).map
          (String.intercalate "\n"), (Link.choose p i.stream source).2) := by
  have name : i.protocol = p.name := Protocol.ofName?_eq_some_iff.mp protocol
  simp only [link, protocol, linkOf, if_pos name, found]

theorem link_eq_ok {text : String} {after : Source} (protocol : i.protocol? = some p)
    (found : i.settings.find? email = some c)
    (h : i.link manner address email source = (.ok text, after)) :
    ∃ lines, Link.lines p i c (Link.choose p i.stream source).1 manner address = .ok lines ∧
      text = String.intercalate "\n" lines ∧ after = (Link.choose p i.stream source).2 := by
  rw [link_of_client protocol found, Prod.mk.injEq] at h
  obtain ⟨lines, written, joined⟩ := map_eq_ok_iff.mp h.1
  exact ⟨lines, written, joined.symm, h.2.symm⟩

end Inbound
end ShareLinks
