import ShareLinks.Json.Parser
import ShareLinks.Text.Quoted
import ShareLinks.Text.Utf8

/-!
The ways in which reading a record, adding a client or writing a link can fail, each with the
data of its cause, and the wording of every one of them: `DecodeError` and
`UnsupportedProtocolError` of `xraylink.errors`, and what the functions they call may raise.
-/

namespace ShareLinks

inductive DecodeReason where
  | malformed (error : Json.SyntaxError)
  | other (detail : String)
  deriving DecidableEq

/-- The parts of a link that are checked on their own. -/
inductive LinkPart where
  | host
  | query
  deriving DecidableEq

inductive Fault where
  /-- A stored text is not what it should be. -/
  | undecodable (field : String) (reason : DecodeReason)
  /-- No client can be made for a protocol. -/
  | unsupportedProtocol (name : String)
  /-- A number that is not finite stands where an integer is needed. -/
  | notFinite (x : Binary64)
  /-- Digits that are no numeral stand where an integer is needed. -/
  | notNumeral (text : String)
  /-- A numeral is longer than numerals may be. -/
  | numeralTooLong (digits limit : Nat)
  /-- A text has the escape of half a surrogate pair in it. What becomes of such a text is not
  modelled. -/
  | loneSurrogate
  /-- An integer to be written has more digits than numerals may have. -/
  | integerTooLong (limit : Nat)
  /-- An integer is beyond the largest floating point number. -/
  | integerTooLarge
  /-- A quotient is beyond the largest floating point number. -/
  | quotientTooLarge
  /-- A part of a link has more characters than it may. -/
  | partTooLong (part : LinkPart)
  /-- A part of a link holds a control character. -/
  | controlCharacter (part : LinkPart) (c : Char) (position : Nat)
  /-- A host looks like an address of version 4 and is none. -/
  | invalidIpv4 (host : String)
  /-- A host in brackets is no address of version 6. -/
  | invalidIpv6 (host : String)
  /-- A host beyond ASCII has no ASCII form. -/
  | invalidName (host : String)
  /-- The zone of an address of version 6 is not ASCII. -/
  | zoneNotAscii (authority : String)
  /-- A link without a server has none to point to. -/
  | hostLeftOut
  /-- A number is to be drawn from an empty range. -/
  | emptyRange
  /-- There is no level of messages of that name. -/
  | unknownLevel (name : String)
  /-- The level of messages is left out. -/
  | levelLeftOut
  /-- The path of a file holds a null character. -/
  | nullInPath
  /-- A file is not UTF-8. -/
  | notUtf8 (fault : Text.Utf8.Fault)
  /-- An object of a kind that has no stored text is to be written. -/
  | notWritten
  deriving DecidableEq

def LinkPart.name : LinkPart → String
  | .host => "host"
  | .query => "query"

def Text.Utf8.Cause.message : Text.Utf8.Cause → String
  | .startByte => "invalid start byte"
  | .continuationByte => "invalid continuation byte"
  | .endOfData => "unexpected end of data"

def numeral (n : Nat) : String :=
  String.ofList (decimalDigits n)

def quote (s : String) : String :=
  String.ofList (Text.quoted s.toList)

/-- Where an ASCII codec stops: the first run of characters that it cannot write. -/
def asciiFaultMessage (cs : List Char) : String :=
  let start := (cs.takeWhile fun c => c.toNat < 0x80).length
  let run := (cs.drop start).takeWhile fun c => 0x80 ≤ c.toNat
  let place := match run with
    | [c] => "character " ++ String.ofList
        (('\'' :: (if c.toNat < 0x100 then '\\' :: 'x' :: Text.hexDigits 2 c.toNat
          else if c.toNat < 0x10000 then '\\' :: 'u' :: Text.hexDigits 4 c.toNat
          else '\\' :: 'U' :: Text.hexDigits 8 c.toNat)) ++ ['\'']) ++
        " in position " ++ numeral start
    | _ => "characters in position " ++ numeral start ++ "-" ++ numeral (start + run.length - 1)
  "'ascii' codec can't encode " ++ place ++ ": ordinal not in range(128)"

namespace Fault

def decodeMessage (field detail : String) : String :=
  if detail.isEmpty then "cannot decode " ++ field else "cannot decode " ++ field ++ ": " ++ detail

def utf8Message (fault : Text.Utf8.Fault) : String :=
  let place :=
    if fault.size = 1 then
      "byte 0x" ++ String.ofList (Text.hexDigits 2 fault.first.toNat) ++ " in position " ++
        numeral fault.position
    else
      "bytes in position " ++ numeral fault.position ++ "-" ++
        numeral (fault.position + fault.size - 1)
  "'utf-8' codec can't decode " ++ place ++ ": " ++ fault.cause.message

def message : Fault → String
  | undecodable field (.malformed error) => decodeMessage field error.message
  | undecodable field (.other detail) => decodeMessage field detail
  | unsupportedProtocol name => "unsupported protocol: " ++ name
  | notFinite .nan => "cannot convert float NaN to integer"
  | notFinite _ => "cannot convert float infinity to integer"
  | notNumeral text =>
    "invalid literal for int() with base 10: " ++
      String.ofList ((Text.quoted text.toList).take 200)
  | numeralTooLong digits limit =>
    "Exceeds the limit (" ++ numeral limit ++
      " digits) for integer string conversion: value has " ++ numeral digits ++
      " digits; use sys.set_int_max_str_digits() to increase the limit"
  | loneSurrogate => "surrogates not allowed"
  | integerTooLong limit =>
    "Exceeds the limit (" ++ numeral limit ++
      " digits) for integer string conversion; use sys.set_int_max_str_digits() to increase " ++
      "the limit"
  | integerTooLarge => "int too large to convert to float"
  | quotientTooLarge => "integer division result too large for a float"
  | partTooLong part => "URL component '" ++ part.name ++ "' too long"
  | controlCharacter part c position =>
    "Invalid non-printable ASCII character in URL " ++ part.name ++ " component, " ++
      quote (String.singleton c) ++ " at position " ++ numeral position ++ "."
  | invalidIpv4 host => "Invalid IPv4 address: " ++ quote host
  | invalidIpv6 host => "Invalid IPv6 address: " ++ quote host
  | invalidName host => "Invalid IDNA hostname: " ++ quote host
  | zoneNotAscii authority => asciiFaultMessage authority.toList
  | hostLeftOut => "Argument 'host' must be str but got list"
  | emptyRange => "empty range"
  | unknownLevel name => "Unknown level: " ++ quote name
  | levelLeftOut => "'list' object has no attribute 'upper'"
  | nullInPath => "embedded null byte"
  | notUtf8 fault => utf8Message fault
  | notWritten => ""

end Fault

/-- Why the text of a named field is not decoded. Only a problem with the text itself is reported as
such. -/
def Json.Refusal.fault (field : String) : Json.Refusal → Fault
  | malformed error => .undecodable field (.malformed error)
  | longNumeral digits => .numeralTooLong digits Text.maxDigits
  | loneSurrogate => .loneSurrogate

/-- The text of an integer, which is not written if it has too many digits to be read again. -/
def integerString (n : Int) : Except Fault String :=
  if Text.isReadable n then .ok (String.ofList (integerText n))
  else .error (.integerTooLong Text.maxDigits)

end ShareLinks
