import PeerTrust.Endpoint.Url
import PeerTrust.Report

/-!
The host that a caller intends to reach.

The hint is the URL that was asked for before the connection was made.  When there is one, the
host comes from it and from nowhere else, and a hint that cannot be read is an error: falling back
to the address of the socket would let whoever controls that address choose the name to be
verified.  Without a hint the address decides, and an address without a host is shown as text so
that the refusal which follows can name it.
-/

namespace PeerTrust

/-- Why a hint gives no host. -/
inductive HintFault where
  | illegalInUrl
  | url (fault : UrlFault)
  | noHost
  | percentEncoded
  | illegalInHost
deriving DecidableEq

/-- The reason as it is told. -/
def HintFault.reason : HintFault → Text
  | illegalInUrl => "illegal character in URL".toList
  | url fault => fault.message
  | noHost => "no host component".toList
  | percentEncoded => "percent-encoded host".toList
  | illegalInHost => "illegal character in host".toList

/-- A hint from which no host can be taken. -/
structure MalformedHint where
  hint : Text
  fault : HintFault
deriving DecidableEq

/-- The malformed hint as callers see it. -/
def MalformedHint.report (e : MalformedHint) : Report :=
  .malformedHint (.text e.hint) (.text e.fault.reason)

namespace Endpoint

/-! ## The host of a hint -/

/-- The character may not stand in a hint. -/
def illegalInUrl (c : Char) : Bool := isBlank c || c.toNat < 0x20

/-- The character may not stand in a host. -/
def illegalInHost (c : Char) : Bool := c == '/' || c.toNat < 0x20 || c.toNat == 0x7F

/-- The host with the percent sign of its zone decoded.  In a URL a zone follows `%25`; any other
use of the percent sign is refused. -/
def decodeZone (host : Text) : Except HintFault Text :=
  match host.past? '%' with
  | none => .ok host
  | some ('2' :: '5' :: zone) =>
    -- Whatever is decoded must be the zone of an address, which has colons.
    let address := host.upTo '%'
    if !zone.isEmpty && address.contains ':' && !zone.contains '%' then .ok (address ++ '%' :: zone)
    else .error .percentEncoded
  | some _ => .error .percentEncoded

/-- The host that a hint names. -/
def hostOfHint (hint : Text) : Except HintFault Text :=
  if hint.any illegalInUrl then .error .illegalInUrl
  else
    match Url.host hint with
    | .error fault => .error (.url fault)
    | .ok [] => .error .noHost
    | .ok host =>
      match decodeZone host with
      | .error fault => .error fault
      | .ok host => if host.any illegalInHost then .error .illegalInHost else .ok host

/-! ## The host of an address -/

/-- The first of the elements when it is a text and not alone. -/
def firstText? : List Value → Option Text
  | .text (c :: cs) :: _ :: _ => some (c :: cs)
  | _ => none

/-- The host of a socket address: the first of at least two elements. -/
def hostOfAddress? : Value → Option Text
  | .list items => firstText? items
  | .tuple items => firstText? items
  | _ => none

/-- The address as text, for the reader of a refusal. -/
def addressText : Value → Text
  | .null => []
  | v => v.display

/-! ## Resolution -/

/-- The host that the caller intends to reach, from the hint if there is one and from the address
of the socket otherwise. -/
def resolve (hint : Option Text) (address : Value) : Except MalformedHint Text :=
  match hint with
  | none | some [] => .ok ((hostOfAddress? address).getD (addressText address))
  | some hint => (hostOfHint hint).mapError (⟨hint, ·⟩)

end Endpoint

end PeerTrust
