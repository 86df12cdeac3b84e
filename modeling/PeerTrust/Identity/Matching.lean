import PeerTrust.Host
import PeerTrust.Identity.Set

/-!
Matching a host against the identities of a certificate.

The host matches when one of the candidates does.  A candidate with an asterisk is a wildcard and
covers names only: an IP address is matched by value, never by a wildcard.  Any other candidate
matches when it has the same normal form as the host.

In a wildcard such as `*.example.com` the asterisk stands for the leftmost label and nothing else
may be one.  At least two labels must follow it, and the pair of a registry label and a country
code, as in `*.co.uk`, is refused because it would cover a whole registry.  What remains after the
asterisk, its full stop included, has to end the host; the labels in front of it must not be empty,
and in strict mode there is exactly one.
-/

namespace PeerTrust

/-! ## Wildcards -/

namespace Wildcard

/-- Second-level labels under which countries register names. -/
def registryLabels : List Text :=
  ["ac".toList, "co".toList, "com".toList, "ed".toList, "edu".toList, "go".toList, "gouv".toList,
   "gov".toList, "info".toList, "lg".toList, "ne".toList, "net".toList, "or".toList, "org".toList]

/-- The labels, the asterisk first, name a registry of a country: three labels, of which the last
has two characters and the second is a registry label. -/
def coversRegistry : List Text → Bool
  | [_, registry, country] => country.length == 2 && registryLabels.contains registry
  | _ => false

/-- The identity is a wildcard that may match something. -/
def isAcceptable (identity : Text) : Bool :=
  let labels := identity.splitOn '.'
  identity.count '*' == 1 && labels.head? == some ['*'] && 3 ≤ labels.length &&
    !coversRegistry labels

/-- What a text has in front of a given ending. -/
def beforeSuffix? (ending host : Text) : Option Text :=
  if ending.isSuffixOf host then some (host.take (host.length - ending.length)) else none

/-- The labels that an asterisk stands for are acceptable: at least one, none empty, and only one
in strict mode. -/
def isCoverable (strict : Bool) (front : Text) : Bool :=
  (front.splitOn '.').all (!·.isEmpty) && (!strict || !front.contains '.')

/-- The wildcard identity covers the host.  Both are in comparable form. -/
def covers (strict : Bool) (identity host : Text) : Bool :=
  isAcceptable identity &&
    match beforeSuffix? identity.tail host with
    | some front => isCoverable strict front
    | none => false

end Wildcard

/-! ## Matching -/

/-- A name of a certificate, in lower case and without blanks around it, matches a host in normal
form. -/
def nameMatches (strict : Bool) (host name : Text) : Bool :=
  if name.contains '*' then !Host.isIpLiteral host && Wildcard.covers strict name host
  else host == Host.normalize name

/-- An entry of an identity set matches a host in normal form; entries that are no texts never
do. -/
def entryMatches (strict : Bool) (host : Text) (entry : Value) : Bool :=
  match entry.text? with
  | some name => nameMatches strict host name.fold
  | none => false

namespace IdentitySet

/-- Some candidate of the set matches the host.  An empty host matches nothing. -/
def matchesHost (ids : IdentitySet) (strict : Bool) (host : Text) : Bool :=
  !host.isEmpty && ids.candidates.any (entryMatches strict (Host.normalize host))

end IdentitySet

end PeerTrust
