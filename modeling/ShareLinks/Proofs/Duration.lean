import ShareLinks.Duration
import ShareLinks.Proofs.Number.Shortest
import ShareLinks.Proofs.Text.Split

/-!
# What the label of a duration shows

A label is read back as days, hours and minutes. It shows the whole hours of a duration, or the
whole minutes where that is shorter than an hour, so it never shows more than there is, and longer
durations never show less. Each number of seconds that can be shown has one label, whatever parts
of it are left out.
-/

namespace ShareLinks.Duration

open Text

/-- What a label shows. -/
structure Shown where
  days : Nat
  hours : Nat
  minutes : Nat
  deriving DecidableEq

/-- The duration that is shown, in seconds. -/
def Shown.seconds (x : Shown) : Nat :=
  86400 * x.days + 3600 * x.hours + 60 * x.minutes

/-- A numeral with the letter of its unit behind it. -/
def readAmount? (cs : List Char) : Option (Nat × Char) :=
  match cs.reverse with
  | [] => none
  | unit :: digits =>
    if digits ≠ [] ∧ digits.all Char.isDigit then some (digitsValue digits.reverse, unit) else none

/-- What amounts in units show together. Minutes stand alone, and hours behind days if at all. -/
def Shown.ofAmounts? : List (Nat × Char) → Option Shown
  | [(days, 'D'), (hours, 'H')] => some ⟨days, hours, 0⟩
  | [(days, 'D')] => some ⟨days, 0, 0⟩
  | [(hours, 'H')] => some ⟨0, hours, 0⟩
  | [(minutes, 'M')] => some ⟨0, 0, minutes⟩
  | _ => none

/-- Reads the amounts before the mark, with commas between them. -/
def read? (label : String) : Option Shown :=
  match cut '⏳' label.toList with
  | (amounts, some []) => do
    let amounts ← (splitOn (· == ',') amounts).mapM readAmount?
    Shown.ofAmounts? amounts
  | _ => none

/-- A numeral with a unit behind it. -/
def amountText (amount : Nat × Char) : List Char :=
  decimalDigits amount.1 ++ [amount.2]

theorem readAmount?_amountText (amount : Nat × Char) :
    readAmount? (amountText amount) = some amount := by
  obtain ⟨n, unit⟩ := amount
  have reversed : (amountText (n, unit)).reverse = unit :: (decimalDigits n).reverse := by
    simp [amountText]
  have digits : (decimalDigits n).reverse.all Char.isDigit = true := by
    rw [List.all_reverse, List.all_eq_true]
    exact fun c hc => isDigit_of_mem_decimalDigits hc
  have some : (decimalDigits n).reverse ≠ [] := by
    simpa using decimalDigits_ne_nil n
  simp only [readAmount?, reversed]
  rw [if_pos ⟨some, digits⟩, List.reverse_reverse, digitsValue_decimalDigits]

theorem mapM_readAmount? (amounts : List (Nat × Char)) :
    (amounts.map amountText).mapM readAmount? = some amounts := by
  induction amounts with
  | nil => rfl
  | cons amount amounts ih =>
    rw [List.map_cons, List.mapM_cons, readAmount?_amountText, ih]
    rfl

theorem not_mem_amountText {c : Char} (sign : c.isDigit = false) {amount : Nat × Char}
    (unit : c ≠ amount.2) : c ∉ amountText amount := by
  intro h
  rcases List.mem_append.mp h with digit | same
  · rw [isDigit_of_mem_decimalDigits digit] at sign
    cases sign
  · exact unit (List.mem_singleton.mp same)

/-- Amounts are read one by one, whatever their units show together. -/
theorem read?_amounts {amounts : List (Nat × Char)} (some : amounts ≠ [])
    (units : ∀ amount ∈ amounts, amount.2 ≠ ',' ∧ amount.2 ≠ '⏳') {label : String}
    (h : label.toList = [','].intercalate (amounts.map amountText) ++ ['⏳']) :
    read? label = Shown.ofAmounts? amounts := by
  have mark : '⏳' ∉ [','].intercalate (amounts.map amountText) := by
    intro inside
    rcases mem_intercalate inside with comma | ⟨piece, hpiece, inside⟩
    · exact absurd comma (by decide)
    · obtain ⟨amount, hamount, rfl⟩ := List.mem_map.mp hpiece
      exact not_mem_amountText (by decide) (units amount hamount).2.symm inside
  have pieces : splitOn (· == ',') ([','].intercalate (amounts.map amountText)) =
      amounts.map amountText := by
    refine splitOn_intercalate (by decide) ?_ (by simpa using some)
    intro piece hpiece c hc
    obtain ⟨amount, hamount, rfl⟩ := List.mem_map.mp hpiece
    rw [beq_eq_false_iff_ne]
    rintro rfl
    exact not_mem_amountText (by decide) (units amount hamount).1.symm hc
  simp only [read?, h, cut_append mark, pieces, mapM_readAmount?, Option.bind_eq_bind,
    Option.bind_some]

/-- What the label of a number of seconds shows. -/
def shown (s : Nat) : Shown :=
  if s < 3600 then ⟨0, 0, s / 60⟩ else ⟨s / 86400, s % 86400 / 3600, 0⟩

/-- The amounts in a label: days and hours where there are any, and minutes where there are
neither. -/
def Shown.amounts (x : Shown) : List (Nat × Char) :=
  if 0 < x.days then
    if 0 < x.hours then [(x.days, 'D'), (x.hours, 'H')] else [(x.days, 'D')]
  else if 0 < x.hours then [(x.hours, 'H')]
  else [(x.minutes, 'M')]

/-- The label of amounts. -/
def labelOf (amounts : List (Nat × Char)) : String :=
  String.ofList ([','].intercalate (amounts.map amountText) ++ mark.toList)

theorem labelOf_singleton (amount : Nat × Char) :
    labelOf [amount] = String.ofList (amountText amount) ++ mark := by
  rw [labelOf, String.ofList_append, String.ofList_toList]
  simp

theorem labelOf_pair (amount other : Nat × Char) :
    labelOf [amount, other] =
      String.ofList (amountText amount) ++ "," ++ String.ofList (amountText other) ++ mark := by
  rw [labelOf, String.ofList_append, String.ofList_toList, List.map_cons, List.map_singleton,
    List.intercalate_cons_of_ne_nil (by simp), String.ofList_append, String.ofList_append]
  simp

theorem isReadable_natCast (n : Nat) : isReadable n = true ↔ n < 10 ^ maxDigits := by
  rw [isReadable, Int.natAbs_natCast, decide_eq_true_eq]
  exact Nat.length_toDigits_le_iff (by decide) (by decide)

theorem amount_natCast (n : Nat) (unit : Char) :
    amount n (String.singleton unit) =
      if n < 10 ^ maxDigits then .ok (String.ofList (amountText (n, unit)))
      else .error (.integerTooLong maxDigits) := by
  unfold amount integerString
  by_cases short : n < 10 ^ maxDigits
  · rw [if_pos ((isReadable_natCast n).mpr short), if_pos short]
    have digits : integerText (n : Int) = decimalDigits n := by
      rw [integerText, if_neg (by omega), Int.natAbs_natCast]
    rw [digits, Except.map, amountText, String.ofList_append]
    rfl
  · rw [if_neg (mt (isReadable_natCast n).mp short), if_neg short]
    rfl

/-- The first number of seconds whose days have too many digits to be printed. -/
def limit : Nat := 86400 * 10 ^ maxDigits

theorem limit_eq : limit = 86400 * 10 ^ 4300 := by
  rw [limit, maxDigits]

theorem lt_limit {s k : Nat} (h : s < 2 ^ k) (short : k ≤ maxDigits) : s < limit :=
  calc s < 2 ^ k := h
    _ ≤ 10 ^ k := Nat.pow_le_pow_left (by decide) k
    _ ≤ 10 ^ maxDigits := Nat.pow_le_pow_right (by decide) short
    _ ≤ limit := Nat.le_mul_of_pos_left _ (by decide)

theorem limit_pos : 0 < limit :=
  lt_limit (show 0 < 2 ^ 1 by decide) (by decide)

/-- The days of a duration are printed up to the limit. -/
theorem amount_days (s : Nat) :
    amount (s / 86400 : Nat) "D" =
      if s < limit then .ok (String.ofList (amountText (s / 86400, 'D')))
      else .error (.integerTooLong maxDigits) := by
  have fits : s < limit ↔ s / 86400 < 10 ^ maxDigits := by
    rw [limit]
    omega
  rw [if_congr fits rfl rfl]
  exact amount_natCast _ 'D'

/-- Amounts of hours and of minutes are always printed. -/
theorem amount_of_lt_sixty {n : Nat} (small : n < 60) (unit : Char) :
    amount n (String.singleton unit) = .ok (String.ofList (amountText (n, unit))) := by
  have two : 10 ^ 2 ≤ 10 ^ maxDigits := Nat.pow_le_pow_right (by decide) (by decide)
  rw [amount_natCast, if_pos (by omega)]

theorem fdiv_days (s : Nat) : (s : Int).fdiv 86400 = (s / 86400 : Nat) := by
  rw [Int.fdiv_eq_ediv_of_nonneg _ (by decide)]
  rfl

theorem fdiv_hours (s : Nat) : ((s : Int).fmod 86400).fdiv 3600 = (s % 86400 / 3600 : Nat) := by
  rw [Int.fmod_eq_emod_of_nonneg _ (by decide), Int.fdiv_eq_ediv_of_nonneg _ (by decide)]
  rfl

theorem fdiv_minutes (s : Nat) : ((s : Int).fmod 3600).fdiv 60 = (s % 3600 / 60 : Nat) := by
  rw [Int.fmod_eq_emod_of_nonneg _ (by decide), Int.fdiv_eq_ediv_of_nonneg _ (by decide)]
  rfl

/-- A label is made of its amounts, of which only the days can have too many digits. -/
theorem render_natCast (s : Nat) :
    render s =
      if s < limit then .ok (labelOf (shown s).amounts)
      else .error (.integerTooLong maxDigits) := by
  have hours : amount (s % 86400 / 3600 : Nat) "H" =
      .ok (String.ofList (amountText (s % 86400 / 3600, 'H'))) :=
    amount_of_lt_sixty (by omega) 'H'
  have minutes : amount (s % 3600 / 60 : Nat) "M" =
      .ok (String.ofList (amountText (s % 3600 / 60, 'M'))) :=
    amount_of_lt_sixty (by omega) 'M'
  rw [render, fdiv_days, fdiv_hours, fdiv_minutes, amount_days, hours, minutes]
  simp only [Int.natCast_pos]
  by_cases someDays : 0 < s / 86400
  · have long : ¬ s < 3600 := by omega
    rw [if_pos someDays, shown, if_neg long, Shown.amounts, if_pos someDays]
    by_cases fits : s < limit
    · rw [if_pos fits, if_pos fits]
      by_cases someHours : 0 < s % 86400 / 3600
      · simp only [if_pos someHours, labelOf_pair]
        rfl
      · simp only [if_neg someHours, labelOf_singleton]
        rfl
    · rw [if_neg fits, if_neg fits]
      rfl
  · have fits : s < limit := lt_limit (show s < 2 ^ 17 by omega) (by decide)
    rw [if_neg someDays, if_pos fits]
    by_cases short : s < 3600
    · have noHours : ¬ 0 < s % 86400 / 3600 := by omega
      have all : s % 3600 / 60 = s / 60 := by omega
      rw [if_neg noHours, shown, if_pos short, Shown.amounts, if_neg (Nat.lt_irrefl 0),
        if_neg (Nat.lt_irrefl 0), labelOf_singleton, all]
      rfl
    · have someHours : 0 < s % 86400 / 3600 := by omega
      rw [if_pos someHours, shown, if_neg short, Shown.amounts, if_neg someDays, if_pos someHours,
        labelOf_singleton]
      rfl

/-- The amounts show what they were taken from, where minutes stand alone. -/
theorem ofAmounts?_amounts {x : Shown} (alone : x.minutes = 0 ∨ x.days = 0 ∧ x.hours = 0) :
    Shown.ofAmounts? x.amounts = some x := by
  obtain ⟨days, hours, minutes⟩ := x
  rcases days.eq_zero_or_pos with rfl | someDays
  · rcases hours.eq_zero_or_pos with rfl | someHours
    · rfl
    · obtain rfl : minutes = 0 := by simp only at alone; omega
      simp [Shown.amounts, Shown.ofAmounts?, someHours]
  · obtain rfl : minutes = 0 := by simp only at alone; omega
    rcases hours.eq_zero_or_pos with rfl | someHours
    · simp [Shown.amounts, Shown.ofAmounts?, someDays]
    · simp [Shown.amounts, Shown.ofAmounts?, someDays, someHours]

theorem minutes_shown_alone (s : Nat) :
    (shown s).minutes = 0 ∨ (shown s).days = 0 ∧ (shown s).hours = 0 := by
  unfold shown
  split
  · exact .inr ⟨rfl, rfl⟩
  · exact .inl rfl

theorem unit_of_mem_amounts {x : Shown} {amount : Nat × Char} (h : amount ∈ x.amounts) :
    amount.2 = 'D' ∨ amount.2 = 'H' ∨ amount.2 = 'M' := by
  unfold Shown.amounts at h
  split at h
  · split at h
    · rcases List.mem_pair.mp h with rfl | rfl <;> simp
    · rw [List.mem_singleton.mp h]
      exact .inl rfl
  · split at h <;> rw [List.mem_singleton.mp h] <;> simp

theorem read?_labelOf (s : Nat) : read? (labelOf (shown s).amounts) = some (shown s) := by
  have some : (shown s).amounts ≠ [] := by
    unfold Shown.amounts
    split <;> split <;> simp
  have units : ∀ amount ∈ (shown s).amounts, amount.2 ≠ ',' ∧ amount.2 ≠ '⏳' := by
    intro amount h
    rcases unit_of_mem_amounts h with unit | unit | unit <;> rw [unit] <;> decide
  have label : (labelOf (shown s).amounts).toList =
      [','].intercalate ((shown s).amounts.map amountText) ++ ['⏳'] := String.toList_ofList
  rw [read?_amounts some units label, ofAmounts?_amounts (minutes_shown_alone s)]

/-- What is shown is the duration rounded down to hours, or to minutes below an hour. -/
theorem seconds_shown (s : Nat) :
    (shown s).seconds = if s < 3600 then s / 60 * 60 else s / 3600 * 3600 := by
  unfold shown Shown.seconds
  split <;> dsimp only <;> omega

theorem shown_eq_of_seconds {s t : Nat} (h : (shown s).seconds = (shown t).seconds) :
    shown s = shown t := by
  rw [seconds_shown, seconds_shown] at h
  unfold shown
  by_cases short : s < 3600
  · have short' : t < 3600 := by
      by_contra long
      rw [if_pos short, if_neg long] at h
      omega
    rw [if_pos short, if_pos short'] at h ⊢
    have minutes : s / 60 = t / 60 := by omega
    rw [minutes]
  · have long : ¬ t < 3600 := by
      intro short'
      rw [if_neg short, if_pos short'] at h
      omega
    rw [if_neg short, if_neg long] at h ⊢
    have days : s / 86400 = t / 86400 := by omega
    have hours : s % 86400 / 3600 = t % 86400 / 3600 := by omega
    rw [days, hours]

/-- A label rounds a number of seconds down, by less than an hour, and by less than a minute below
an hour. -/
structure Shown.RoundsDown (x : Shown) (s : Nat) : Prop where
  hours : x.hours < 24
  minutes : x.minutes < 60
  le : x.seconds ≤ s
  hour : 3600 ≤ s → s - x.seconds < 3600
  minute : s < 3600 → s - x.seconds < 60

theorem roundsDown_shown (s : Nat) : (shown s).RoundsDown s := by
  have seconds := seconds_shown s
  refine ⟨?_, ?_, ?_, ?_, ?_⟩
  · unfold shown
    split <;> dsimp only <;> omega
  · unfold shown
    split <;> dsimp only <;> omega
  all_goals
    rw [seconds]
    split <;> omega

theorem seconds_shown_le {s t : Nat} (h : s ≤ t) : (shown s).seconds ≤ (shown t).seconds := by
  rw [seconds_shown, seconds_shown]
  split <;> split <;> omega

theorem render_eq_error_iff {s : Nat} {fault : Fault} :
    render s = .error fault ↔ fault = .integerTooLong maxDigits ∧ limit ≤ s := by
  rw [render_natCast]
  by_cases short : s < limit
  · rw [if_pos short]
    exact iff_of_false (by simp) (by omega)
  · rw [if_neg short, Except.error.injEq, eq_comm]
    exact (and_iff_left (by omega)).symm

theorem render_int_eq_error_iff {n : Int} (positive : 0 ≤ n) {fault : Fault} :
    render n = .error fault ↔ fault = .integerTooLong maxDigits ∧ (limit : Int) ≤ n := by
  obtain ⟨s, rfl⟩ := Int.eq_ofNat_of_zero_le positive
  rw [render_eq_error_iff, Int.ofNat_le]

/-- The label of any number of seconds is read back as days, hours and minutes that round it down.
More seconds are never shown as less, and two labels are the same just where they show the same.
There is no label where the days have too many digits. -/
theorem labels_round_down_in_order :
    (∀ s t : Nat, s < 86400 * 10 ^ 4300 → t < 86400 * 10 ^ 4300 →
      ∃ label label' a b, render s = .ok label ∧ render t = .ok label' ∧
        read? label = some a ∧ read? label' = some b ∧ a.RoundsDown s ∧ b.RoundsDown t ∧
        (s ≤ t → a.seconds ≤ b.seconds) ∧ (label = label' ↔ a.seconds = b.seconds)) ∧
    ∀ s : Nat, 86400 * 10 ^ 4300 ≤ s → render s = .error (.integerTooLong 4300) := by
  rw [← limit_eq]
  refine ⟨fun s t fits fits' => ?_, fun s long => render_eq_error_iff.mpr ⟨rfl, long⟩⟩
  refine ⟨_, _, shown s, shown t, (render_natCast s).trans (if_pos fits),
    (render_natCast t).trans (if_pos fits'), read?_labelOf s, read?_labelOf t, roundsDown_shown s,
    roundsDown_shown t, seconds_shown_le, fun same => ?_, fun same => ?_⟩
  · have read := congrArg read? same
    rw [read?_labelOf, read?_labelOf, Option.some.injEq] at read
    rw [read]
  · rw [shown_eq_of_seconds same]

/-- A day and an hour are told apart from a second less. -/
theorem second_before_hour_is_hidden :
    ∃ label label', render 90000 = .ok label ∧ render 89999 = .ok label' ∧
      read? label = some ⟨1, 1, 0⟩ ∧ read? label' = some ⟨1, 0, 0⟩ ∧ label ≠ label' := by
  have fits : 90000 < 86400 * 10 ^ 4300 :=
    limit_eq ▸ lt_limit (show 90000 < 2 ^ 17 by decide) (by decide)
  have fits' : 89999 < 86400 * 10 ^ 4300 := (Nat.lt_succ_self _).trans fits
  obtain ⟨label, label', a, b, said, said', -⟩ :=
    labels_round_down_in_order.1 90000 89999 fits fits'
  have shows : render 90000 = .ok "1D,1H⏳" := by decide +kernel
  have shows' : render 89999 = .ok "1D⏳" := by decide +kernel
  obtain rfl : label = "1D,1H⏳" := Except.ok.inj (said.symm.trans shows)
  obtain rfl : label' = "1D⏳" := Except.ok.inj (said'.symm.trans shows')
  exact ⟨_, _, said, said', by decide +kernel, by decide +kernel, by decide⟩

/-- The first number of seconds that has no label. -/
theorem endless_days_have_no_label :
    render (86400 * 10 ^ 4300 : Nat) = .error (.integerTooLong 4300) ∧
      ¬∀ s : Nat, ∃ label, render s = .ok label := by
  rw [← limit_eq]
  have refused : render limit = .error (.integerTooLong 4300) :=
    render_eq_error_iff.mpr ⟨rfl, le_rfl⟩
  refine ⟨refused, fun all => ?_⟩
  obtain ⟨label, said⟩ := all limit
  cases said.symm.trans refused

end ShareLinks.Duration
