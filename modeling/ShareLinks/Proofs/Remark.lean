import ShareLinks.Proofs.Duration
import ShareLinks.Proofs.Number.Range
import ShareLinks.Proofs.Sequence
import ShareLinks.Remark

/-!
# What a remark says

A remark names the inbound, the client and the endpoint. Nothing is added to the names but where
the traffic of the client is shown: a mark before them if the client is switched off, and otherwise
what is left of its quota and then of its time behind them. There is no such remark where an amount
or an expiry is beyond the range of floating point, through which both are converted, or where there
are too many days left to be printed.
-/

namespace ShareLinks

theorem DataAmount.render_int_eq_error_iff {n : Int} {fault : Fault} :
    render (.int n) = .error fault ↔
      fault = .integerTooLarge ∧ Binary64.limit ≤ n.natAbs := by
  have range := Binary64.ofQuotient?_eq_none_iff n Nat.one_pos
  rw [Nat.mul_one] at range
  rw [render, map_eq_error_iff, ofNumber, Binary64.ofInt?, ← range]
  cases Binary64.ofQuotient? n 1 with
  | none => simp [eq_comm]
  | some x => simp

theorem secondsOfMilliseconds_eq_error_iff {ms : Int} {fault : Fault} :
    secondsOfMilliseconds ms = .error fault ↔
      fault = .quotientTooLarge ∧ Binary64.limit * 1000 ≤ ms.natAbs := by
  rw [secondsOfMilliseconds, ← Binary64.ofQuotient?_eq_none_iff ms (by decide)]
  cases rounded : Binary64.ofQuotient? ms 1000 with
  | none => simp [eq_comm]
  | some x =>
    obtain ⟨k, whole⟩ := Binary64.exists_truncate?_of_ofQuotient? rounded
    simp [Number.truncate, whole]

/-- Seconds that come from floating point are never too many to be printed. -/
theorem natAbs_lt_of_secondsOfMilliseconds {ms seconds : Int}
    (h : secondsOfMilliseconds ms = .ok seconds) : seconds.natAbs < Duration.limit := by
  rw [secondsOfMilliseconds] at h
  split at h
  · cases h
  · next x _ =>
    rw [Number.truncate] at h
    split at h
    · next n whole =>
      obtain rfl := Except.ok.inj h
      exact Duration.lt_limit (Binary64.natAbs_lt_of_truncate? whole) (by decide)
    · cases h

namespace Remark

/-- What is left of a quota is told where anything is left. -/
inductive QuotaTokens : Int → List String → Prop
  | usedUp {left : Int} : left ≤ 0 → QuotaTokens left []
  | left {left : Int} {amount : String} : 0 < left →
      DataAmount.render (.int left) = .ok amount → QuotaTokens left [amount ++ trafficMark]

/-- The time until an expiry in seconds is told where there is one. A negative expiry is the time
that a client gets from its first use on, whatever the time is now. -/
inductive TimeTokens (now : Int) : Int → List String → Prop
  | unlimited : TimeTokens now 0 []
  | untilExpiry {expiry : Int} {left : String} : 0 < expiry →
      Duration.render (max (expiry - now) 0) = .ok left → TimeTokens now expiry [left]
  | fromFirstUse {expiry : Int} {whole : String} : expiry < 0 →
      Duration.render (-expiry) = .ok whole → TimeTokens now expiry [whole]

variable {t : Traffic} {fault : Fault} {tokens : List String}

theorem quotaPart_eq_ok_iff : quotaPart t = .ok tokens ↔ QuotaTokens t.remaining tokens := by
  unfold quotaPart
  constructor
  · intro h
    split at h
    · next some =>
      obtain ⟨amount, written, h⟩ := bind_eq_ok_iff.mp h
      cases h
      exact .left some written
    · next none =>
      cases h
      exact .usedUp (not_lt.mp none)
  · rintro (none | ⟨some, written⟩)
    · rw [if_neg (not_lt.mpr none)]
      rfl
    · rw [if_pos some]
      exact bind_eq_ok_iff.mpr ⟨_, written, rfl⟩

theorem quotaPart_eq_error_iff :
    quotaPart t = .error fault ↔ fault = .integerTooLarge ∧ Binary64.limit ≤ t.remaining := by
  have positive := Binary64.limit_pos
  unfold quotaPart
  split
  · next some =>
    rw [bind_eq_error_iff, DataAmount.render_int_eq_error_iff]
    simp only [pure, Except.pure, reduceCtorEq, and_false, exists_false, or_false]
    exact and_congr_right fun _ => by omega
  · next none => exact iff_of_false (fun h => by cases h) (fun h => by omega)

theorem timePart_eq_ok_iff {now : Int} :
    timePart t (.int now) = .ok tokens ↔
      ∃ expiry, secondsOfMilliseconds t.expiryTime = .ok expiry ∧ TimeTokens now expiry tokens := by
  rw [timePart, bind_eq_ok_iff]
  refine exists_congr fun expiry => and_congr_right fun _ => ?_
  constructor
  · intro h
    split at h
    · next positive =>
      obtain ⟨_, whole, h⟩ := bind_eq_ok_iff.mp h
      cases whole
      obtain ⟨left, said, h⟩ := bind_eq_ok_iff.mp h
      cases h
      exact .untilExpiry positive said
    split at h
    · next negative =>
      obtain ⟨whole, said, h⟩ := bind_eq_ok_iff.mp h
      cases h
      exact .fromFirstUse negative said
    · next notPositive notNegative =>
      cases h
      obtain rfl : expiry = 0 := by omega
      exact .unlimited
  · rintro (_ | ⟨positive, said⟩ | ⟨negative, said⟩)
    · rfl
    · rw [if_pos positive]
      exact bind_eq_ok_iff.mpr ⟨now, rfl, bind_eq_ok_iff.mpr ⟨_, said, rfl⟩⟩
    · rw [if_neg (by omega), if_pos negative]
      exact bind_eq_ok_iff.mpr ⟨_, said, rfl⟩

/-- The days until an expiry are too many to be printed. -/
def IsEndless (t : Traffic) (now : Int) : Prop :=
  ∃ expiry, secondsOfMilliseconds t.expiryTime = .ok expiry ∧ 0 < expiry ∧
    Duration.limit ≤ expiry - now

theorem timePart_eq_error_iff {now : Int} :
    timePart t (.int now) = .error fault ↔
      (fault = .quotientTooLarge ∧ Binary64.limit * 1000 ≤ t.expiryTime.natAbs) ∨
        (fault = .integerTooLong Text.maxDigits ∧ IsEndless t now) := by
  rw [timePart, bind_eq_error_iff, secondsOfMilliseconds_eq_error_iff]
  refine or_congr_right ?_
  have clamped {expiry : Int} : Duration.render (max (expiry - now) 0) = .error fault ↔
      fault = .integerTooLong Text.maxDigits ∧ Duration.limit ≤ expiry - now := by
    have positive := Duration.limit_pos
    rw [Duration.render_int_eq_error_iff (le_max_right _ _), le_max_iff]
    exact and_congr_right fun _ => or_iff_left (by omega)
  constructor
  · rintro ⟨expiry, seconds, h⟩
    split at h
    · next positive =>
      rcases bind_eq_error_iff.mp h with whole | ⟨_, whole, h⟩
      · cases whole
      cases whole
      rcases bind_eq_error_iff.mp h with unprinted | ⟨_, _, h⟩
      · obtain ⟨rfl, long⟩ := clamped.mp unprinted
        exact ⟨rfl, expiry, seconds, positive, long⟩
      · cases h
    split at h
    · next negative =>
      rcases bind_eq_error_iff.mp h with unprinted | ⟨_, _, h⟩
      · have small := natAbs_lt_of_secondsOfMilliseconds seconds
        have long := ((Duration.render_int_eq_error_iff (by omega)).mp unprinted).2
        omega
      · cases h
    · cases h
  · rintro ⟨rfl, expiry, seconds, positive, long⟩
    refine ⟨expiry, seconds, ?_⟩
    rw [if_pos positive]
    exact bind_eq_error_iff.mpr (.inr ⟨now, rfl, bind_eq_error_iff.mpr (.inl
      (clamped.mpr ⟨rfl, long⟩))⟩)

/-- The first record for an email. -/
def IsFirstFor (email : String) (stats : List Traffic) (t : Traffic) : Prop :=
  ∃ before after, stats = before ++ t :: after ∧ t.email = email ∧ ∀ s ∈ before, s.email ≠ email

theorem find?_of_isFirstFor {email : String} {stats : List Traffic}
    (h : IsFirstFor email stats t) : (stats.find? fun s => s.email == email) = some t := by
  obtain ⟨before, after, split, own, others⟩ := h
  refine List.find?_eq_some_iff_append.mpr ⟨by simpa using own, before, after, split, ?_⟩
  simpa using others

variable {separator inbound email extra : String} {showInfo : Bool} {now : Number}
  {stats : List Traffic}

theorem text_of_no_record (h : showInfo = false ∨ ∀ s ∈ stats, s.email ≠ email) :
    text ⟨separator, showInfo, now⟩ inbound email extra stats =
      .ok (separator.intercalate (names inbound email extra)) := by
  have none : (if showInfo = true then stats.find? fun s => s.email == email else none) = none := by
    rcases h with off | absent
    · rw [off, if_neg Bool.false_ne_true]
    · rw [ite_eq_right_iff]
      exact fun _ => List.find?_eq_none.mpr (by simpa using absent)
  rw [text, none]
  rfl

/-- With a record to show, a remark is made of the names and of that record. -/
theorem text_of_isFirstFor (h : IsFirstFor email stats t) :
    text ⟨separator, true, now⟩ inbound email extra stats =
      (annotated (names inbound email extra) t now).map separator.intercalate := by
  rw [text, if_pos rfl, find?_of_isFirstFor h]
  dsimp only
  cases annotated (names inbound email extra) t now <;> rfl

theorem annotated_eq_ok_iff {parts all : List String} {now : Int} (on : t.enable = true) :
    annotated parts t (.int now) = .ok all ↔
      ∃ quota expiry time, QuotaTokens t.remaining quota ∧
        secondsOfMilliseconds t.expiryTime = .ok expiry ∧ TimeTokens now expiry time ∧
        all = parts ++ quota ++ time := by
  rw [annotated, if_pos on]
  simp only [bind_eq_ok_iff, quotaPart_eq_ok_iff, timePart_eq_ok_iff, pure, Except.pure,
    Except.ok.injEq]
  constructor
  · rintro ⟨quota, hquota, time, ⟨expiry, seconds, htime⟩, rfl⟩
    exact ⟨quota, expiry, time, hquota, seconds, htime, rfl⟩
  · rintro ⟨quota, expiry, time, hquota, seconds, htime, rfl⟩
    exact ⟨quota, hquota, time, ⟨expiry, seconds, htime⟩, rfl⟩

/-- A record that is switched on fails for its quota first, and then for its expiry. -/
theorem annotated_eq_error_iff {parts : List String} {now : Int} (on : t.enable = true) :
    annotated parts t (.int now) = .error fault ↔
      (fault = .integerTooLarge ∧ Binary64.limit ≤ t.remaining) ∨
        (t.remaining < Binary64.limit ∧
          ((fault = .quotientTooLarge ∧ Binary64.limit * 1000 ≤ t.expiryTime.natAbs) ∨
            (fault = .integerTooLong Text.maxDigits ∧ IsEndless t now))) := by
  have written : (∃ quota, quotaPart t = .ok quota) ↔ t.remaining < Binary64.limit := by
    cases h : quotaPart t with
    | ok quota =>
      have fits : ¬ Binary64.limit ≤ t.remaining := fun large => by
        cases h.symm.trans (quotaPart_eq_error_iff.mpr ⟨rfl, large⟩)
      exact iff_of_true ⟨quota, rfl⟩ (not_le.mp fits)
    | error fault =>
      have refused := quotaPart_eq_error_iff.mp h
      exact iff_of_false (fun ⟨_, written⟩ => by cases written) (not_lt.mpr refused.2)
  rw [annotated, if_pos on]
  simp only [bind_eq_error_iff, quotaPart_eq_error_iff, timePart_eq_error_iff, pure, Except.pure,
    reduceCtorEq, and_false, exists_false, or_false, ← written, exists_and_right]

/-- What is left of a record can be told at some time: its amounts can be converted to floating
point, and the days until its expiry can be printed. -/
structure IsTellable (t : Traffic) (now : Int) : Prop where
  quota : t.total - (t.up + t.down) < Binary64.limit
  expiry : t.expiryTime.natAbs < Binary64.limit * 1000
  days : ¬IsEndless t now

/-- Two times that are no different to an expiry: neither is before it, or it is no expiry but a
duration or nothing. -/
def SameTo (expiry now later : Int) : Prop :=
  expiry ≤ 0 ∨ expiry ≤ now ∧ expiry ≤ later

theorem TimeTokens.congr {expiry now later : Int} (same : SameTo expiry now later)
    (h : TimeTokens now expiry tokens) : TimeTokens later expiry tokens := by
  cases h with
  | unlimited => exact .unlimited
  | fromFirstUse negative said => exact .fromFirstUse negative said
  | untilExpiry positive said =>
    have passed := same.resolve_left (by omega)
    have clamped : max (expiry - now) 0 = max (expiry - later) 0 := by omega
    rw [clamped] at said
    exact .untilExpiry positive said

theorem text_of_enabled (now : Int) (first : IsFirstFor email stats t) (on : t.enable = true)
    (fits : IsTellable t now) :
    ∃ quota expiry time, QuotaTokens t.remaining quota ∧
      secondsOfMilliseconds t.expiryTime = .ok expiry ∧ TimeTokens now expiry time ∧
      text ⟨separator, true, .int now⟩ inbound email extra stats =
        .ok (separator.intercalate (names inbound email extra ++ quota ++ time)) := by
  rw [text_of_isFirstFor first]
  cases h : annotated (names inbound email extra) t (.int now) with
  | ok all =>
    obtain ⟨quota, expiry, time, hquota, seconds, htime, rfl⟩ := (annotated_eq_ok_iff on).mp h
    exact ⟨quota, expiry, time, hquota, seconds, htime, rfl⟩
  | error fault =>
    have quota := fits.quota
    have expiry := fits.expiry
    rcases (annotated_eq_error_iff on).mp h with ⟨-, large⟩ | ⟨-, ⟨-, large⟩ | ⟨-, endless⟩⟩
    · exact absurd large (not_le.mpr quota)
    · exact absurd large (not_le.mpr expiry)
    · exact absurd endless fits.days

/-- What a remark says for every list of records at every whole second.

Without a record to show it is the names. A record that is switched off puts a mark before them, and
nothing else of it counts. One that is switched on adds what is left of the quota and of the time
behind them, where there is any; two times past an expiry are the same to it, and all times are to a
duration. Only its amounts can be in the way, where they are beyond floating point or leave too many
days to be printed. -/
theorem text_annotates_names (separator inbound email extra : String) (stats : List Traffic)
    (now : Int) :
    (∀ showInfo, (showInfo = false ∨ ∀ t ∈ stats, t.email ≠ email) →
      text ⟨separator, showInfo, .int now⟩ inbound email extra stats =
        .ok (separator.intercalate (names inbound email extra))) ∧
    ∀ t, IsFirstFor email stats t →
      (t.enable = false →
        text ⟨separator, true, .int now⟩ inbound email extra stats =
          .ok (separator.intercalate (disabledMark :: names inbound email extra))) ∧
      (t.enable = true → IsTellable t now →
        ∃ quota expiry time, QuotaTokens (t.total - (t.up + t.down)) quota ∧
          secondsOfMilliseconds t.expiryTime = .ok expiry ∧ TimeTokens now expiry time ∧
          text ⟨separator, true, .int now⟩ inbound email extra stats =
            .ok (separator.intercalate (names inbound email extra ++ quota ++ time)) ∧
          ∀ later, SameTo expiry now later →
            text ⟨separator, true, .int later⟩ inbound email extra stats =
              text ⟨separator, true, .int now⟩ inbound email extra stats) ∧
      (t.enable = true → ∀ fault,
        (text ⟨separator, true, .int now⟩ inbound email extra stats = .error fault ↔
          fault = .integerTooLarge ∧ Binary64.limit ≤ t.total - (t.up + t.down) ∨
          t.total - (t.up + t.down) < Binary64.limit ∧
            (fault = .quotientTooLarge ∧ Binary64.limit * 1000 ≤ t.expiryTime.natAbs ∨
              fault = .integerTooLong Text.maxDigits ∧ IsEndless t now))) := by
  refine ⟨fun showInfo h => text_of_no_record h, fun t first => ⟨fun off => ?_, fun on fits => ?_,
    fun on fault => ?_⟩⟩
  · rw [text_of_isFirstFor first, annotated, off, if_neg Bool.false_ne_true]
    rfl
  · obtain ⟨quota, expiry, time, hquota, seconds, htime, said⟩ :=
      text_of_enabled now first on fits
    refine ⟨quota, expiry, time, hquota, seconds, htime, said, fun later same => ?_⟩
    rw [said, text_of_isFirstFor first, map_eq_ok_iff]
    exact ⟨_, (annotated_eq_ok_iff on).mpr
      ⟨quota, expiry, time, hquota, seconds, htime.congr same, rfl⟩, rfl⟩
  · rw [text_of_isFirstFor first, map_eq_error_iff, annotated_eq_error_iff on]
    rfl

/-- A client with a quota and an expiry. -/
def limitedClient : Traffic :=
  { email := "ada", up := 512, down := 512, total := 2560, expiryTime := 90061999 }

/-- A client with a duration that is beyond floating point. -/
def endlessClient : Traffic :=
  { email := "bo", expiryTime := -10 ^ 400 }

/-- A client that is switched off. -/
def disabledClient : Traffic :=
  { limitedClient with email := "cy", enable := false }

/-- Records of three clients, the first of them twice. -/
def clientRecords : List Traffic :=
  [limitedClient, { limitedClient with enable := false }, endlessClient, disabledClient]

/-- The first record of a client counts, and from its expiry on nothing changes. One client has no
remark, one is marked only, and one without a record is just named. Long enough before an expiry
there is no remark either. -/
theorem remarks_of_client_records :
    (IsFirstFor "ada" clientRecords limitedClient ∧ limitedClient.enable = true ∧
      IsTellable limitedClient 90061) ∧
    text ⟨" ", true, .int 0⟩ "eu" "ada" "" clientRecords = .ok "eu ada 1.50KB📊 1D,1H⏳" ∧
    (∀ later, 90061 ≤ later →
      text ⟨" ", true, .int later⟩ "eu" "ada" "" clientRecords = .ok "eu ada 1.50KB📊 0M⏳") ∧
    text ⟨" ", true, .int (-Duration.limit)⟩ "eu" "ada" "" clientRecords =
      .error (.integerTooLong 4300) ∧
    (IsFirstFor "bo" clientRecords endlessClient ∧ endlessClient.enable = true) ∧
    text ⟨" ", true, .int 0⟩ "eu" "bo" "" clientRecords = .error .quotientTooLarge ∧
    (IsFirstFor "cy" clientRecords disabledClient ∧ disabledClient.enable = false) ∧
    text ⟨" ", true, .int 0⟩ "eu" "cy" "" clientRecords = .ok "⛔\ufe0fN/A eu cy" ∧
    (∀ t ∈ clientRecords, t.email ≠ "di") ∧
    text ⟨" ", true, .int 0⟩ "eu" "di" "" clientRecords = .ok "eu di" := by
  have first : IsFirstFor "ada" clientRecords limitedClient :=
    ⟨[], _, rfl, rfl, List.forall_mem_nil _⟩
  have third : IsFirstFor "bo" clientRecords endlessClient :=
    ⟨[limitedClient, { limitedClient with enable := false }], _, rfl, rfl, by decide⟩
  have last : IsFirstFor "cy" clientRecords disabledClient :=
    ⟨[limitedClient, { limitedClient with enable := false }, endlessClient], [], rfl, rfl,
      by decide⟩
  have absent : ∀ t ∈ clientRecords, t.email ≠ "di" := by decide
  have whole : secondsOfMilliseconds limitedClient.expiryTime = .ok 90061 := by rfl
  have positive := Duration.limit_pos
  have fits : IsTellable limitedClient 90061 := by
    refine ⟨by decide +kernel, by decide +kernel, ?_⟩
    rintro ⟨expiry, seconds, -, endless⟩
    obtain rfl := Except.ok.inj (whole.symm.trans seconds)
    omega
  refine ⟨⟨first, rfl, fits⟩, by decide +kernel, fun later passed => ?_, ?_, ⟨third, rfl⟩, ?_,
    ⟨last, rfl⟩, ?_, absent, ?_⟩
  · obtain ⟨-, records⟩ := text_annotates_names " " "eu" "ada" "" clientRecords 90061
    obtain ⟨quota, expiry, time, -, seconds, -, -, same⟩ := (records _ first).2.1 rfl fits
    obtain rfl := Except.ok.inj (whole.symm.trans seconds)
    rw [same later (.inr ⟨le_rfl, passed⟩)]
    decide +kernel
  · obtain ⟨-, records⟩ :=
      text_annotates_names " " "eu" "ada" "" clientRecords (-Duration.limit)
    refine ((records _ first).2.2 rfl _).mpr (.inr ⟨by decide +kernel, .inr ⟨rfl, ?_⟩⟩)
    exact ⟨90061, whole, by decide, by omega⟩
  · obtain ⟨-, records⟩ := text_annotates_names " " "eu" "bo" "" clientRecords 0
    exact ((records _ third).2.2 rfl _).mpr
      (.inr ⟨by decide +kernel, .inl ⟨rfl, by decide +kernel⟩⟩)
  · obtain ⟨-, records⟩ := text_annotates_names " " "eu" "cy" "" clientRecords 0
    exact (records _ last).1 rfl
  · obtain ⟨plain, -⟩ := text_annotates_names " " "eu" "di" "" clientRecords 0
    exact plain true (.inr absent)

end Remark
end ShareLinks
