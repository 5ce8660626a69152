import ShareLinks.Number.Decimal
import ShareLinks.Text.Split

/-!
Addresses of version 4 and the hosts that are taken for one. Four numbers of at most three digits,
none above 255 and none with a needless zero in front, are an address. A host is taken for one
already when it is four runs of digits with a dot between each two.
-/

namespace ShareLinks.Host

def isOctet (cs : List Char) : Bool :=
  !cs.isEmpty && cs.all Char.isDigit && cs.length ≤ 3 && (cs == ['0'] || cs.head? != some '0') &&
    digitsValue cs ≤ 255

def dotted (cs : List Char) : List (List Char) :=
  Text.splitOn (· == '.') cs

def isIpv4 (cs : List Char) : Bool :=
  (dotted cs).length == 4 && (dotted cs).all isOctet

/-- Four runs of digits with a dot between each two. -/
def resemblesIpv4 (cs : List Char) : Bool :=
  (dotted cs).length == 4 && (dotted cs).all fun piece => !piece.isEmpty && piece.all Char.isDigit

example : isIpv4 "1.2.3.255".toList = true ∧ isIpv4 "01.2.3.4".toList = false ∧
    isIpv4 "1.2.3.256".toList = false ∧ isIpv4 "1.2.3".toList = false := by decide
example : resemblesIpv4 "1.2.3.99999".toList = true ∧ resemblesIpv4 "1.2.3.4.5".toList = false ∧
    resemblesIpv4 "1.2.3".toList = false ∧ resemblesIpv4 "2130706433".toList = false ∧
    resemblesIpv4 "1..2.3".toList = false := by decide

end ShareLinks.Host
