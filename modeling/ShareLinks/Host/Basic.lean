import ShareLinks.Host.Ipv6
import ShareLinks.Host.Label
import ShareLinks.Text.Percent
import ShareLinks.Url

/-!
A library of URLs: the host of a link and its query, as `httpx` writes them. A host with a colon
is an address of version 6 and stands in brackets; one that looks like an address of version 4
has to be one; anything else is a name, in lower case and with what a name cannot hold escaped
when it is ASCII, and in its ASCII form when it is not.

This is what the command line program makes its links with, and no more than one such library:
what is said of links elsewhere holds for every library with the laws that it has.
-/

namespace ShareLinks.Host

def maxPartLength : Nat := 65536

def isControl (c : Char) : Bool :=
  c.toNat < 0x20 || c.toNat == 0x7F

def checkPart (part : LinkPart) (cs : List Char) : Except Fault Unit :=
  if maxPartLength < cs.length then .error (.partTooLong part)
  else match cs.find? isControl with
    | some c => .error (.controlCharacter part c (cs.takeWhile (!isControl ·)).length)
    | none => .ok ()

def isBracketed (cs : List Char) : Bool :=
  2 ≤ cs.length && cs.head? == some '[' && cs.getLast? == some ']'

/-- The host with the brackets that a colon asks for. -/
def bracketed (cs : List Char) : List Char :=
  if cs.contains ':' && !isBracketed cs then '[' :: cs ++ [']'] else cs

def isNameChar (c : Char) : Bool :=
  Text.isUnreserved c || "!$&'()*+,;=\"\x60\x7b\x7d%|\\".toList.contains c

/-- A host as a link writes it, for a host that is in brackets if it needs them. -/
def encode (host : List Char) : Except Fault (List Char) :=
  if host.isEmpty then .ok []
  else if resemblesIpv4 host then
    if isIpv4 host then .ok host else .error (.invalidIpv4 (String.ofList host))
  else if isBracketed host then
    if isIpv6 ((host.drop 1).dropLast) then .ok host
    else .error (.invalidIpv6 (String.ofList host))
  else if host.all fun c => c.toNat < 0x80 then
    .ok (Text.percentEncode isNameChar (Text.lower host))
  else match asciiName? (Text.lower host) with
    | some name => .ok name
    | none => .error (.invalidName (String.ofList host))

/-- Host and port. The zone of an address is the only thing in them that might not be ASCII. -/
def server (host port : List Char) : Except Fault (List Char) := do
  let encoded ← encode host
  let text := encoded ++ ':' :: port
  if text.all fun c => c.toNat < 0x80 then .ok text
  else .error (.zoneNotAscii (String.ofList text))

/-- Host and query are checked for size and control characters before the host is encoded. -/
def makeUrl (host : String) (port : Int) (params : List (String × String)) : Except Fault Url := do
  let query := Text.formEncodeAll params
  let port ← integerString port
  let host := bracketed host.toList
  checkPart .host host
  checkPart .query query
  let server ← server host port.toList
  pure { server, query }

def library : UrlLibrary where
  make _ host port params := makeUrl host port params

end ShareLinks.Host
