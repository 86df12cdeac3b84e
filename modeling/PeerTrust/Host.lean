import PeerTrust.IpAddress
import PeerTrust.Text.Lower

/-!
Host names: names of the local machine, IP literals, and the form in which hosts are compared.

A host may be a name or an IP address in any of its spellings, with or without the square
brackets that URLs put around it.  `normalize` gives all spellings of one address one text and
leaves every other name as it is, apart from blanks around it and the case of its letters.
-/

namespace PeerTrust

namespace Host

/-! ## The local machine -/

/-- The names of the local machine. -/
def loopbackNames : List Text :=
  ["localhost".toList, "localhost.localdomain".toList, "127.0.0.1".toList, "::1".toList]

/-- The loopback address without its zone; any other host as it is. -/
def dropLoopbackZone (host : Text) : Text :=
  if "::1".toList.isPrefixOf host then (host.upToLast? '%').getD host else host

/-- The host names the local machine.  Only the name is looked at. -/
def isLoopback (host : Text) : Bool := loopbackNames.contains (dropLoopbackZone host.fold)

/-! ## IP literals -/

/-- The host without the square brackets around it. -/
def stripBrackets (host : Text) : Text :=
  if host.head? = some '[' ∧ host.getLast? = some ']' then host.tail.dropLast else host

/-- The IP address that a host spells. -/
def address? (host : Text) : Option IpAddress := IpAddress.parse? (stripBrackets host)

/-- The host is an IP address, in brackets or not. -/
def isIpLiteral (host : Text) : Bool := (address? host.trim).isSome

/-! ## Comparison -/

/-- The form in which hosts are compared: without blanks around it, in lower case, and an IP
address in its chosen written form. -/
def normalize (name : Text) : Text :=
  match address? name.fold with
  | some address => address.toText
  | none => name.fold

end Host

end PeerTrust
