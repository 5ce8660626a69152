import Mathlib.Data.List.GetD
import ShareLinks.Stream.Security

/-!
# What is drawn

Generated letters are letters and digits of ASCII, one word for each. Of some strings one is
drawn, for one word, if there are any.
-/

namespace ShareLinks

namespace Source

theorem letter_mem_alphabet (word : Nat) : letter word ∈ alphabet := by
  have bound : word % 62 < alphabet.length := by
    rw [alphabet_length]
    exact Nat.mod_lt _ (by decide)
  rw [letter, List.getD_eq_getElem _ _ bound]
  exact List.getElem_mem bound

theorem mem_alphabet_of_mem_letters {count : Nat} {s : Source} {c : Char}
    (h : c ∈ (s.letters count).1.toList) : c ∈ alphabet := by
  rw [letters, String.toList_ofList] at h
  obtain ⟨i, -, rfl⟩ := List.mem_map.mp h
  exact letter_mem_alphabet (s.word i)

theorem colon_not_mem_letters (count : Nat) (s : Source) : ':' ∉ (s.letters count).1.toList := by
  intro colon
  exact absurd (mem_alphabet_of_mem_letters colon) (by decide)

theorem length_letters (count : Nat) (s : Source) :
    (s.letters count).1.toList.length = count := by
  simp [letters]

@[simp] theorem used_letters (count : Nat) (s : Source) :
    (s.letters count).2.used = s.used + count := rfl

theorem isAlphanum_of_mem_letters {count : Nat} {s : Source} {c : Char}
    (h : c ∈ (s.letters count).1.toList) : c.isAlphanum = true := by
  have all : alphabet.all Char.isAlphanum = true := by decide
  exact List.all_eq_true.mp all c (mem_alphabet_of_mem_letters h)

theorem identifier_ne_empty (s : Source) : (s.identifier).1 ≠ "" := by
  intro none
  have length := congrArg String.toList none
  rw [identifier, String.toList_ofList] at length
  simp [identifierText] at length

end Source

namespace Reality

theorem chooseFrom_of_ne_nil {items : List String} (some : items ≠ []) (s : Source) :
    ∃ item ∈ items, chooseFrom items s = (.some item, s.advance 1) := by
  have positive := List.length_pos_iff.mpr some
  have bound : s.word 0 % items.length < items.length := Nat.mod_lt _ positive
  refine ⟨items[s.word 0 % items.length], List.getElem_mem bound, ?_⟩
  simp only [chooseFrom, Source.pick, Source.below, if_neg (Nat.ne_of_gt positive), Except.map,
    Except.toOption, List.getD_eq_getElem _ _ bound]

theorem mem_of_chooseFrom {items : List String} {s : Source} {item : String}
    (h : (chooseFrom items s).1 = some item) : item ∈ items := by
  by_cases none : items = []
  · subst none
    cases h
  · obtain ⟨drawn, mem, found⟩ := chooseFrom_of_ne_nil none s
    rw [found] at h
    cases h
    exact mem

theorem isSome_chooseFrom (items : List String) (s : Source) :
    (chooseFrom items s).1.isSome = !items.isEmpty := by
  by_cases none : items = []
  · subst none
    rfl
  · obtain ⟨drawn, -, found⟩ := chooseFrom_of_ne_nil none s
    simp [found, none]

theorem used_chooseFrom (items : List String) (s : Source) :
    (chooseFrom items s).2.used = s.used + if items = [] then 0 else 1 := by
  by_cases none : items = []
  · subst none
    rfl
  · obtain ⟨drawn, -, found⟩ := chooseFrom_of_ne_nil none s
    simp [found, none]

/-- How many words a link draws for Reality settings. -/
def drawCount (r : Reality) : Nat :=
  15 + (if r.serverNames = [] then 0 else 1) + (if r.shortIds = [] then 0 else 1)

/-- Drawn values are from Reality settings: one of the server names and one of the short ids, if
there are any, and a slash with fifteen letters or digits. -/
structure Choice.IsFrom (choice : Choice) (r : Reality) : Prop where
  serverName : ∀ name, choice.serverName = some name → name ∈ r.serverNames
  serverName_isSome : choice.serverName.isSome = !r.serverNames.isEmpty
  shortId : ∀ id, choice.shortId = some id → id ∈ r.shortIds
  shortId_isSome : choice.shortId.isSome = !r.shortIds.isEmpty
  spiderPath : ∃ letters, choice.spiderPath.toList = '/' :: letters ∧ letters.length = 15 ∧
    ∀ c ∈ letters, c.isAlphanum = true

theorem isFrom_choose (r : Reality) (s : Source) : (r.choose s).1.IsFrom r where
  serverName _ drawn := mem_of_chooseFrom drawn
  serverName_isSome := isSome_chooseFrom r.serverNames s
  shortId _ drawn := mem_of_chooseFrom drawn
  shortId_isSome := isSome_chooseFrom r.shortIds _
  spiderPath := by
    refine ⟨_, String.toList_append, ?_, ?_⟩
    · exact Source.length_letters _ _
    · exact fun c => Source.isAlphanum_of_mem_letters

theorem used_choose (r : Reality) (s : Source) :
    (r.choose s).2.used = s.used + r.drawCount := by
  simp only [choose, Source.used_letters, used_chooseFrom, drawCount, spiderLength]
  omega

end Reality
end ShareLinks
