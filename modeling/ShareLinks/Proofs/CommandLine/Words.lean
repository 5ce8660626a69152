import Mathlib.Data.List.TakeWhile
import ShareLinks.CommandLine.Run

/-!
# The words of a link command

A word without a hyphen in front is taken as it is. So a command line that names a record, an email
and an address asks for just the link that it seems to ask for.
-/

namespace ShareLinks.CommandLine

/-- A word that no option begins like. -/
def IsPlain (word : String) : Prop :=
  word.toList.head? ≠ some '-'

variable {options : Options} {word : String}

theorem IsPlain.ne_separator (h : IsPlain word) : word ≠ "--" := by
  rintro rfl
  exact h rfl

theorem IsPlain.classify_eq (h : IsPlain word) : classify options word = .plain := by
  simp only [classify, if_neg h.ne_separator]
  exact if_pos h

theorem classifyAll_of_not_mem {words : List String} (h : "--" ∉ words) :
    classifyAll options words = words.map fun w => (w, classify options w) := by
  have all : words.takeWhile (· != "--") = words := by
    apply List.takeWhile_eq_self_iff.mpr
    intro w hw
    exact bne_iff_ne.mpr fun same => h (same ▸ hw)
  simp [classifyAll, all]

namespace Progress

variable {name : String} {accepts : String → Bool} (missing : Nat) (taken loose : Bool)
  (found : Found)

theorem step_word (h : IsPlain word) :
    step options ⟨missing + 1, taken, loose, none, found⟩ (word, .plain) =
      .ok ⟨missing, true, false, none, { found with words := found.words ++ [some word] }⟩ := by
  simp [step, take, h.ne_separator]

theorem step_option (known : options.lookup name = some (.value accepts)) (w : String) :
    step options ⟨missing, taken, loose, none, found⟩ (w, .option name none) =
      .ok ⟨missing, false, loose, some (name, accepts), found⟩ := by
  simp only [step, known]

theorem step_value (h : IsPlain word) (accepted : accepts word = true) :
    step options ⟨missing, taken, loose, some (name, accepts), found⟩ (word, .plain) =
      .ok ⟨missing, false, loose, none,
        { found with options := found.options ++ [(name, some word)] }⟩ := by
  simp [step, give, h.ne_separator, accepted]

theorem step_flag (known : options.lookup name = some .flag) (w : String) :
    step options ⟨missing, taken, loose, none, found⟩ (w, .option name none) =
      .ok ⟨missing, false, loose, none,
        { found with options := found.options ++ [(name, some "")] }⟩ := by
  simp [step, known, give]

end Progress

/-- The words behind `link` that ask for the link of a client in a record. -/
def linkWords (path email address : String) (showInfo : Bool) : List String :=
  [path, email, "--address", address] ++ if showInfo then ["--show-info"] else []

section Link

variable {path email address : String} (record : IsPlain path) (mail : IsPlain email)
  (host : IsPlain address) (showInfo : Bool)

include record mail host

theorem separator_not_mem_linkWords : "--" ∉ linkWords path email address showInfo := by
  have words := And.intro record.ne_separator.symm
    (And.intro mail.ne_separator.symm host.ne_separator.symm)
  cases showInfo <;> simp [linkWords, words]

theorem readWords_linkWords :
    readWords linkOptions 2 (linkWords path email address showInfo) =
      .ok { options := [("--address", some address)] ++
              if showInfo then [("--show-info", some "")] else []
            words := [some path, some email] } := by
  have named : classify linkOptions "--address" = .option "--address" none ∧
      classify linkOptions "--show-info" = .option "--show-info" none := by decide
  have value : linkOptions.lookup "--address" = some (.value fun _ => true) := rfl
  have flag : linkOptions.lookup "--show-info" = some .flag := rfl
  rw [readWords, classifyAll_of_not_mem (separator_not_mem_linkWords record mail host showInfo)]
  cases showInfo <;>
    simp [linkWords, record.classify_eq, mail.classify_eq, host.classify_eq, named,
      Progress.step_word _ _ _ _ record, Progress.step_word _ _ _ _ mail,
      Progress.step_option _ _ _ _ value, Progress.step_value _ _ _ _ host,
      Progress.step_flag _ _ _ _ flag, Progress.finish, bind, Except.bind, pure, Except.pure]

/-- No word of a link command is taken for several options of the program. -/
theorem not_ambiguous_linkWords :
    (classifyAll mainOptions ("link" :: linkWords path email address showInfo)).any
      (fun (_, word) => word = .ambiguous) = false := by
  have apart : "--" ∉ "link" :: linkWords path email address showInfo := by
    rw [List.mem_cons, not_or]
    exact ⟨by decide, separator_not_mem_linkWords record mail host showInfo⟩
  have unknown : classify mainOptions "--address" = .unknown ∧
      classify mainOptions "--show-info" = .unknown := by decide +kernel
  have named : classify mainOptions "link" = .plain := by decide
  rw [classifyAll_of_not_mem apart]
  cases showInfo <;>
    simp [linkWords, record.classify_eq, mail.classify_eq, host.classify_eq, named, unknown]

theorem read_linkWords (config : Config) :
    read config ("link" :: linkWords path email address showInfo) =
      .ok ⟨some (String.ofList (Text.upper config.logLevel.toList)),
        .link path (some email) (some address) (config.showInfo || showInfo)⟩ := by
  have named : classify mainOptions "link" = .plain := by decide
  have words := readWords_linkWords record mail host showInfo
  have given : readCommand config false "link" (linkWords path email address showInfo) =
      .ok (.link path (some email) (some address) (config.showInfo || showInfo)) := by
    simp only [readCommand, pure_bind, words]
    cases showInfo <;> rfl
  rw [read, not_ambiguous_linkWords record mail host showInfo, if_neg Bool.false_ne_true]
  unfold readFrom
  rw [named]
  dsimp only
  rw [given]
  rfl

end Link

end ShareLinks.CommandLine
