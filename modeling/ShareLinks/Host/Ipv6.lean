import ShareLinks.Host.Ipv4
import ShareLinks.Text.Hex

/-!
Addresses of version 6: eight groups of up to four hexadecimal digits, of which the last two may
be written as an address of version 4. One double colon may stand for a run of zero groups, at
either end too. An address may have a zone behind a percent sign.
-/

namespace ShareLinks.Host

/-- A group of an address; one that is empty is none. -/
def isGroup (cs : List Char) : Bool :=
  !cs.isEmpty && cs.length ≤ 4 && cs.all fun c => (Text.hexValue? c).isSome

/-- The parts between colons, with an address of version 4 in the last place counted as two
groups. -/
def groups? (cs : List Char) : Option (List (List Char)) :=
  let parts := Text.splitOn (· == ':') cs
  let last := parts.getLast?.getD []
  if parts.length < 3 then none
  else if last.contains '.' then
    if isIpv4 last then some (parts.dropLast ++ [['0'], ['0']]) else none
  else some parts

/-- Groups before and after a double colon: fewer than eight, and not even one empty unless the
double colon stands at that end. -/
def areSplitGroups (before after : List (List Char)) : Bool :=
  let before := if before == [[]] then [] else before
  let after := if after == [[]] then [] else after
  before.length + after.length < 8 && before.all isGroup && after.all isGroup

/-- The places of the empty parts that have a part on either side. -/
def innerGaps (parts : List (List Char)) : List Nat :=
  (List.range parts.length).filter fun i =>
    0 < i && i + 1 < parts.length && parts[i]? == some []

def isPlainIpv6 (cs : List Char) : Bool :=
  match groups? cs with
  | none => false
  | some parts =>
    parts.length ≤ 9 &&
      match innerGaps parts with
      | [] => parts.length == 8 && parts.all isGroup
      | [i] => areSplitGroups (parts.take i) (parts.drop (i + 1))
      | _ => false

def isIpv6 (cs : List Char) : Bool :=
  !cs.contains '/' &&
    match Text.splitOn (· == '%') cs with
    | [address] => isPlainIpv6 address
    | [address, zone] => isPlainIpv6 address && !zone.isEmpty
    | _ => false

example : isIpv6 "::".toList = true ∧ isIpv6 "1:2:3:4:5:6:7::".toList = true ∧
    isIpv6 "::ffff:1.2.3.4".toList = true ∧ isIpv6 "fe80::1%eth0".toList = true := by decide
example : isIpv6 ":::".toList = false ∧ isIpv6 "1::2::3".toList = false ∧
    isIpv6 ":1".toList = false ∧ isIpv6 "1:2:3:4:5:6:7:8::".toList = false := by decide

end ShareLinks.Host
