import ShareLinks.Json.Field

/-!
What a client has used of its quota: `ClientTraffic` of `xraylink.remark`. Amounts of data are
shown by `format_traffic` of `xraylink.util`: in the largest unit, up to the petabyte, of which
there is at least one, with two places.
-/

namespace ShareLinks

open scoped CorePowers

/-- The traffic record of a client; amounts in bytes, the expiry in milliseconds. -/
structure Traffic where
  email : String := ""
  enable : Bool := true
  up : Int := 0
  down : Int := 0
  total : Int := 0
  expiryTime : Int := 0
  deriving DecidableEq

namespace Traffic

def ofJson (doc : Json) : Except Fault Traffic := do
  let up ← (doc.field "up").integerOrZero
  let down ← (doc.field "down").integerOrZero
  let total ← (doc.field "total").integerOrZero
  let expiryTime ← (doc.field "expiryTime").integerOrZero
  pure
    { email := (doc.field "email").stringOr ""
      enable := (doc.field "enable").boolOr true
      up
      down
      total
      expiryTime }

/-- What is left of the quota, negative when it is exceeded. -/
def remaining (t : Traffic) : Int :=
  t.total - (t.up + t.down)

end Traffic

namespace DataAmount

/-- The units, each 1024 of the one before. -/
def units : List String :=
  ["B", "KB", "MB", "GB", "TB", "PB"]

/-- How many times an amount of `n / d` is divided by 1024, while there is at least that much and a
larger unit is left. Floating point numbers of that size are divided without rounding. -/
def unitIndex (n d : Nat) : (larger : Nat) → Nat
  | 0 => 0
  | larger + 1 => if 1024 * d ≤ n then unitIndex n (1024 * d) larger + 1 else 0

/-- The unit for any amount: negative ones and those that are no numbers are in bytes. -/
def unitOf : Binary64 → Nat
  | .finite false m e _ =>
    let (n, d) := Binary64.magnitude m e
    unitIndex n d 5
  | .infinity false => 5
  | _ => 0

def words : Binary64.Spelling := ⟨"nan", "inf"⟩

def text (x : Binary64) : String :=
  let k := unitOf x
  String.ofList (x.twoPlaces words (1024 ^ k)) ++ units.getD k ""

def ofNumber : Number → Except Fault Binary64
  | .float x => .ok x
  | .int n =>
    match Binary64.ofInt? n with
    | some x => .ok x
    | none => .error .integerTooLarge

def render (bytes : Number) : Except Fault String :=
  (ofNumber bytes).map text

end DataAmount
end ShareLinks
