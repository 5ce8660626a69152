import ShareLinks.Proofs.Number.Rounded
import ShareLinks.Proofs.Sequence
import ShareLinks.Remark

/-!
# Expiries in seconds

An expiry is stored in milliseconds. Its seconds are found by a quotient that is rounded to a
floating point number before its fraction is dropped. Up to `2 ^ 53` milliseconds such a quotient is
rounded by less than a thousandth, so it never reaches the next second, and the sign of the seconds
is that of the integer quotient.
-/

namespace ShareLinks

open Binary64 (limit roundingPlace)

variable {ms : Int}

/-- Quotients by a thousand of integers up to `2 ^ 53` have nine places or more behind the point. -/
theorem exists_roundingPlace_thousand {n : Nat} (hn : 0 < n) (h : n ≤ 2 ^ 53) :
    ∃ j : Nat, roundingPlace n 1000 = -j ∧ 9 ≤ j := by
  have positive : (0 : ℚ) < (n : ℚ) / (1000 : Nat) := by positivity
  have small : (n : ℚ) / (1000 : Nat) < 2 ^ (44 : Int) := by
    have bound : (n : ℚ) ≤ 2 ^ 53 := by exact_mod_cast h
    rw [div_lt_iff₀ (by norm_num)]
    norm_num
    linarith
  have place := Binary64.roundingPlace_eq hn (d := 1000) (by decide)
  have below := (Binary64.lt_iff_log positive _).mp small
  exact ⟨(-roundingPlace n 1000).toNat, by omega, by omega⟩

/-- The quotients by a thousand of integers up to `2 ^ 53` are far below the limit of the format. -/
theorem lt_limit_mul_thousand {n : Nat} (h : n ≤ 2 ^ 53) : n < limit * 1000 := by
  have low := Binary64.two_pow_le_limit
  omega

theorem truncate?_ofRatio_thousand (negative : Bool) {n : Nat} (h : n ≤ 2 ^ 53) :
    (Binary64.ofRatio negative n 1000).truncate? =
      some (if negative then -((n / 1000 : Nat) : Int) else ((n / 1000 : Nat) : Int)) := by
  rcases n.eq_zero_or_pos with rfl | hn
  · rw [Binary64.ofRatio, if_pos rfl, Binary64.truncate?_zero, Nat.zero_div, Nat.cast_zero,
      neg_zero, ite_self]
  · obtain ⟨j, place, behind⟩ := exists_roundingPlace_thousand hn h
    have fine : 1000 < 2 ^ (j + 1) :=
      calc 1000 < 2 ^ 10 := by norm_num
        _ ≤ 2 ^ (j + 1) := Nat.pow_le_pow_right (by decide) (by omega)
    exact Binary64.truncate?_ofRatio negative hn (by decide) (lt_limit_mul_thousand h) place fine

/-- An integer quotient that goes towards zero has the sign of its dividend and the magnitude of the
quotient of the magnitudes. -/
theorem tdiv_eq_signed (n : Int) (d : Nat) :
    n.tdiv d = if decide (n < 0) then -((n.natAbs / d : Nat) : Int)
      else ((n.natAbs / d : Nat) : Int) := by
  obtain ⟨k, rfl | rfl⟩ := n.eq_nat_or_neg
  · rw [Int.natAbs_natCast, if_neg (by simp), Int.ofNat_tdiv]
  · rw [Int.natAbs_neg, Int.natAbs_natCast, Int.neg_tdiv, ← Int.ofNat_tdiv]
    rcases k.eq_zero_or_pos with rfl | hk
    · simp
    · rw [if_pos (by simpa using hk)]

/-- The seconds of a number of milliseconds are found without loss. -/
theorem exists_truncate?_thousand (h : ms.natAbs ≤ 2 ^ 53) :
    ∃ x v, Binary64.ofQuotient? ms 1000 = some x ∧ x.IsRounded (ms / 1000) v ∧
      x.truncate? = some (ms.tdiv 1000) := by
  have small := lt_limit_mul_thousand h
  obtain ⟨x, v, quotient, rounded⟩ := Binary64.exists_isRounded ms (by decide) small
  refine ⟨x, v, quotient, by exact_mod_cast rounded, ?_⟩
  obtain rfl := Option.some.inj
    ((Binary64.ofQuotient?_eq_some ms (by decide) small).symm.trans quotient)
  rw [truncate?_ofRatio_thousand _ h]
  exact congrArg some (tdiv_eq_signed ms 1000).symm

theorem secondsOfMilliseconds_eq_tdiv (h : ms.natAbs ≤ 2 ^ 53) :
    secondsOfMilliseconds ms = .ok (ms.tdiv 1000) := by
  obtain ⟨x, -, quotient, -, whole⟩ := exists_truncate?_thousand h
  rw [secondsOfMilliseconds, quotient]
  dsimp only
  rw [Number.truncate, whole]

theorem Remark.timePart_of_seconds {t : Traffic} {seconds : Int} (now : Number)
    (h : secondsOfMilliseconds t.expiryTime = .ok seconds) :
    (0 < seconds → timePart t now = do
      let now ← now.truncate
      let left ← Duration.render (max (seconds - now) 0)
      pure [left]) ∧
    (seconds < 0 → timePart t now = do
      let whole ← Duration.render (-seconds)
      pure [whole]) ∧
    (seconds = 0 → timePart t now = .ok []) := by
  have told : timePart t now =
      if 0 < seconds then do
        let now ← now.truncate
        let left ← Duration.render (max (seconds - now) 0)
        pure [left]
      else if seconds < 0 then do
        let whole ← Duration.render (-seconds)
        pure [whole]
      else pure [] := by
    rw [timePart, h]
    rfl
  rw [told]
  refine ⟨fun positive => if_pos positive, fun negative => ?_, fun none => ?_⟩
  · rw [if_neg (by omega), if_pos negative]
  · rw [if_neg (by omega), if_neg (by omega)]
    rfl

/-- The conversion of an expiry to seconds, for every integer up to `2 ^ 53` in magnitude.

The quotient by a thousand is rounded to a number that is nearest to it, to even where two are, and
without its fraction this is the integer quotient that goes towards zero. So whether an expiry is a
point in time, a duration from the first use on, or none is told by the sign of that quotient. -/
theorem expiry_loses_no_second (h : ms.natAbs ≤ 2 ^ 53) :
    (∃ x v, Binary64.ofQuotient? ms 1000 = some x ∧ x.IsRounded (ms / 1000) v ∧
      x.truncate? = some (ms.tdiv 1000)) ∧
    secondsOfMilliseconds ms = .ok (ms.tdiv 1000) ∧
    ∀ t : Traffic, t.expiryTime = ms → ∀ now : Number,
      (0 < ms.tdiv 1000 → Remark.timePart t now = do
        let now ← now.truncate
        let left ← Duration.render (max (ms.tdiv 1000 - now) 0)
        pure [left]) ∧
      (ms.tdiv 1000 < 0 → Remark.timePart t now = do
        let whole ← Duration.render (-(ms.tdiv 1000))
        pure [whole]) ∧
      (ms.tdiv 1000 = 0 → Remark.timePart t now = .ok []) := by
  have seconds := secondsOfMilliseconds_eq_tdiv h
  refine ⟨exists_truncate?_thousand h, seconds, ?_⟩
  rintro t rfl now
  exact Remark.timePart_of_seconds now seconds

/-- At the upper end of the range, a millisecond before a full second is not rounded up to it. -/
theorem last_millisecond_stays_before : (9007199254739999 : Int).natAbs ≤ 2 ^ 53 ∧
    secondsOfMilliseconds 9007199254739999 = .ok 9007199254739 :=
  have inRange : (9007199254739999 : Int).natAbs ≤ 2 ^ 53 := by decide
  ⟨inRange, (expiry_loses_no_second inRange).2.1⟩

end ShareLinks
