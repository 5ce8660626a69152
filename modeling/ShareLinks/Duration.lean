import ShareLinks.Fault

/-!
Durations and points in time. A duration is shown in days and hours, in hours, or in minutes,
whatever is smaller left out, as `format_duration` of `xraylink.remark` does it; a point in time
is a number of seconds, whole or not.
-/

namespace ShareLinks

namespace Duration

def mark : String := "⏳"

def amount (n : Int) (unit : String) : Except Fault String :=
  (integerString n).map (· ++ unit)

/-- The text of a number of seconds. Quotients go to the floor, so a negative duration has hours
and minutes that are not negative. -/
def render (seconds : Int) : Except Fault String := do
  let days := seconds.fdiv 86400
  let hours := (seconds.fmod 86400).fdiv 3600
  let minutes := (seconds.fmod 3600).fdiv 60
  if 0 < days then
    let days ← amount days "D"
    if 0 < hours then
      let hours ← amount hours "H"
      pure (days ++ "," ++ hours ++ mark)
    else pure (days ++ mark)
  else if 0 < hours then
    let hours ← amount hours "H"
    pure (hours ++ mark)
  else
    let minutes ← amount minutes "M"
    pure (minutes ++ mark)

end Duration

namespace Number

def truncate : Number → Except Fault Int
  | .int n => .ok n
  | .float x =>
    match x.truncate? with
    | some n => .ok n
    | none => .error (.notFinite x)

/-- The product with a positive integer, in floating point for floating point numbers. -/
def scale (k : Nat) : Number → Number
  | .int n => .int (n * k)
  | .float x => .float (x.scale k)

/-- A time in seconds as whole milliseconds. -/
def milliseconds (time : Number) : Except Fault Int :=
  (time.scale 1000).truncate

end Number

/-- Milliseconds as whole seconds. The quotient is rounded to a floating point number before its
fraction is dropped. -/
def secondsOfMilliseconds (ms : Int) : Except Fault Int :=
  match Binary64.ofQuotient? ms 1000 with
  | none => .error .quotientTooLarge
  | some x => (Number.float x).truncate

end ShareLinks
