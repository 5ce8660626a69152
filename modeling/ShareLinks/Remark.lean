import ShareLinks.Duration
import ShareLinks.Traffic

/-!
Remarks: the labels under which clients list a link, as `gen_remark` of `xraylink.remark` makes
them. A remark names the inbound, the client and the endpoint, and may end in what is left of the
client's quota and of its time.
-/

namespace ShareLinks

namespace Remark

def disabledMark : String := "⛔\ufe0fN/A"

def trafficMark : String := "📊"

def names (inbound email extra : String) : List String :=
  [inbound, email, extra].filter fun s => !s.isEmpty

def quotaPart (t : Traffic) : Except Fault (List String) :=
  if 0 < t.remaining then do
    let amount ← DataAmount.render (.int t.remaining)
    pure [amount ++ trafficMark]
  else pure []

/-- The time until an expiry, or the time that a client gets from its first use on, which is
stored as a negative expiry. -/
def timePart (t : Traffic) (now : Number) : Except Fault (List String) := do
  let expiry ← secondsOfMilliseconds t.expiryTime
  if 0 < expiry then
    let now ← now.truncate
    let left ← Duration.render (max (expiry - now) 0)
    pure [left]
  else if expiry < 0 then
    let whole ← Duration.render (-expiry)
    pure [whole]
  else pure []

def annotated (parts : List String) (t : Traffic) (now : Number) : Except Fault (List String) :=
  if t.enable then do
    let quota ← quotaPart t
    let time ← timePart t now
    pure (parts ++ quota ++ time)
  else pure (disabledMark :: parts)

/-- How the remarks of a link are written: what stands between their parts, whether they say what
is left of quota and time, and at what time. -/
structure Manner where
  separator : String
  showInfo : Bool
  now : Number

/-- The remark of a client with a list of traffic records, of which its first one counts. -/
def text (manner : Manner) (inbound email extra : String) (stats : List Traffic) :
    Except Fault String := do
  let parts := names inbound email extra
  let record := if manner.showInfo then stats.find? fun t => t.email == email else none
  let parts ← match record with
    | some t => annotated parts t manner.now
    | none => pure parts
  pure (String.intercalate manner.separator parts)

end Remark
end ShareLinks
