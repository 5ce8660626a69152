import ShareLinks.Text.Split

/-!
# Taking text apart at marks

A text is cut at the first or the last place of a mark. Where pieces without a separator were put
together with one between each two, splitting gives the pieces.
-/

namespace ShareLinks.Text

/-- The text before the first place of a mark, and the text behind it if there is such a place. -/
def cut (mark : Char) : List Char → List Char × Option (List Char)
  | [] => ([], none)
  | c :: cs =>
    if c = mark then ([], some cs)
    else (c :: (cut mark cs).1, (cut mark cs).2)

/-- The texts before and behind the last place of a mark. -/
def cutLast? (mark : Char) (cs : List Char) : Option (List Char × List Char) :=
  match cut mark cs.reverse with
  | (_, none) => none
  | (behind, some before) => some (before.reverse, behind.reverse)

variable {mark : Char} {cs : List Char}

theorem cut_of_not_mem (h : mark ∉ cs) : cut mark cs = (cs, none) := by
  induction cs with
  | nil => rfl
  | cons c cs ih =>
    obtain ⟨ne, others⟩ := List.ne_and_not_mem_of_not_mem_cons h
    rw [cut, if_neg ne.symm, ih others]

theorem cut_append (h : mark ∉ cs) (rest : List Char) :
    cut mark (cs ++ mark :: rest) = (cs, some rest) := by
  induction cs with
  | nil => rw [List.nil_append, cut, if_pos rfl]
  | cons c cs ih =>
    obtain ⟨ne, others⟩ := List.ne_and_not_mem_of_not_mem_cons h
    rw [List.cons_append, cut, if_neg ne.symm, ih others]

theorem cutLast?_append (h : mark ∉ cs) (before : List Char) :
    cutLast? mark (before ++ mark :: cs) = some (before, cs) := by
  have reversed : (before ++ mark :: cs).reverse = cs.reverse ++ mark :: before.reverse := by
    simp
  rw [cutLast?, reversed, cut_append (by simpa using h)]
  simp

variable {isSeparator : Char → Bool}

theorem splitOn_of_not_mem (h : ∀ c ∈ cs, isSeparator c = false) :
    splitOn isSeparator cs = [cs] := by
  induction cs with
  | nil => rfl
  | cons c cs ih =>
    rw [splitOn_cons, h c (by simp), ih fun d hd => h d (by simp [hd])]
    rfl

theorem splitOn_append (h : ∀ c ∈ cs, isSeparator c = false) {separator : Char}
    (hs : isSeparator separator = true) (rest : List Char) :
    splitOn isSeparator (cs ++ separator :: rest) = cs :: splitOn isSeparator rest := by
  induction cs with
  | nil => rw [List.nil_append, splitOn_cons, hs]; rfl
  | cons c cs ih =>
    rw [List.cons_append, splitOn_cons, h c (by simp), ih fun d hd => h d (by simp [hd])]
    rfl

theorem intercalate_splitOn (separator : Char) (cs : List Char) :
    [separator].intercalate (splitOn (· == separator) cs) = cs := by
  induction cs with
  | nil => rfl
  | cons c cs ih =>
    obtain ⟨first, others, pieces⟩ := List.exists_cons_of_ne_nil
      (splitOn_ne_nil (· == separator) cs)
    rw [pieces] at ih
    rw [splitOn_cons, pieces]
    split
    · next same =>
      rw [beq_iff_eq.mp same, List.intercalate_cons_cons, ih]
      rfl
    · cases others with
      | nil =>
        rw [List.intercalate_singleton] at ih
        rw [List.headD_cons, List.tail_cons, List.intercalate_singleton, ih]
      | cons next others =>
        rw [List.intercalate_cons_cons] at ih
        rw [List.headD_cons, List.tail_cons, List.intercalate_cons_cons, List.cons_append,
          List.cons_append, ih]

theorem mem_of_mem_splitOn {piece : List Char} (h : piece ∈ splitOn isSeparator cs) {c : Char}
    (hc : c ∈ piece) : c ∈ cs := by
  induction cs generalizing piece with
  | nil =>
    rw [splitOn_nil, List.mem_singleton] at h
    rw [h] at hc
    cases hc
  | cons d cs ih =>
    rw [splitOn_cons] at h
    split at h
    · rcases List.mem_cons.mp h with rfl | h
      · cases hc
      · exact List.mem_cons_of_mem _ (ih h hc)
    · cases pieces : splitOn isSeparator cs with
      | nil => exact absurd pieces (splitOn_ne_nil _ _)
      | cons first others =>
        rw [pieces, List.headD_cons, List.tail_cons] at h
        rcases List.mem_cons.mp h with rfl | h
        · rcases List.mem_cons.mp hc with rfl | hc
          · exact List.mem_cons_self
          · exact List.mem_cons_of_mem _ (ih (by rw [pieces]; exact List.mem_cons_self) hc)
        · exact List.mem_cons_of_mem _ (ih (by rw [pieces]; exact List.mem_cons_of_mem _ h) hc)

/-- Every character is a separator or stands in one of the pieces. -/
theorem mem_splitOn (isSeparator : Char → Bool) {c : Char} (hc : c ∈ cs) :
    isSeparator c = true ∨ ∃ piece ∈ splitOn isSeparator cs, c ∈ piece := by
  induction cs with
  | nil => cases hc
  | cons d cs ih =>
    rw [splitOn_cons]
    by_cases separates : isSeparator d = true
    · rw [if_pos separates]
      rcases List.mem_cons.mp hc with rfl | hc
      · exact .inl separates
      · exact (ih hc).imp_right fun ⟨piece, hpiece, h⟩ => ⟨piece, by simp [hpiece], h⟩
    · rw [if_neg separates]
      cases pieces : splitOn isSeparator cs with
      | nil => exact absurd pieces (splitOn_ne_nil _ _)
      | cons first others =>
        rw [pieces] at ih
        rcases List.mem_cons.mp hc with rfl | hc
        · exact .inr ⟨c :: first, by simp, by simp⟩
        · rcases ih hc with h | ⟨piece, hpiece, h⟩
          · exact .inl h
          · rcases List.mem_cons.mp hpiece with rfl | hpiece
            · exact .inr ⟨d :: piece, by simp, by simp [h]⟩
            · exact .inr ⟨piece, by simp [hpiece], h⟩

theorem mem_intercalate {separator d : Char} {pieces : List (List Char)}
    (h : d ∈ [separator].intercalate pieces) : d = separator ∨ ∃ piece ∈ pieces, d ∈ piece := by
  induction pieces with
  | nil => cases h
  | cons piece pieces ih =>
    cases pieces with
    | nil =>
      rw [List.intercalate_singleton] at h
      exact .inr ⟨piece, by simp, h⟩
    | cons next pieces =>
      rw [List.intercalate_cons_cons, List.append_assoc, List.mem_append] at h
      rcases h with h | h
      · exact .inr ⟨piece, by simp, h⟩
      · rcases List.mem_cons.mp h with h | h
        · exact .inl h
        · exact (ih h).imp_right fun ⟨other, hother, hd⟩ => ⟨other, by simp [hother], hd⟩

theorem splitOn_intercalate {separator : Char} (hs : isSeparator separator = true)
    {pieces : List (List Char)} (h : ∀ piece ∈ pieces, ∀ c ∈ piece, isSeparator c = false)
    (some : pieces ≠ []) : splitOn isSeparator ([separator].intercalate pieces) = pieces := by
  induction pieces with
  | nil => exact absurd rfl some
  | cons piece pieces ih =>
    have first := h piece (by simp)
    cases pieces with
    | nil =>
      rw [List.intercalate_singleton]
      exact splitOn_of_not_mem first
    | cons next pieces =>
      have rest := ih (fun other hother => h other (by simp [hother])) (by simp)
      rw [List.intercalate_cons_cons, List.append_assoc, List.singleton_append,
        splitOn_append first hs, rest]

end ShareLinks.Text
