import PeerTrust.IpAddress
import PeerTrust.Text.Lower
import PeerTrust.Text.Quoted

/-!
The host of a URL.

A URL is cut in a fixed order: the scheme at the first colon, the authority at the first of the
three characters that end it, user information at the last commercial at, and what is not the host
at the colon that follows it.  A host in square brackets keeps its colons, and what stands in the
brackets has to be an IPv6 address or an address of a future version.  The order of the cuts is
what keeps a host from being smuggled in by user information or by a path.
-/

namespace PeerTrust

/-- Why a URL is refused before its host is looked at. -/
inductive UrlFault where
  /-- Brackets do not enclose the whole host. -/
  | misplacedBrackets
  /-- The bracketed host starts as an address of a future version and is none. -/
  | futureAddress
  /-- The bracketed host is no address. -/
  | notAnAddress (host : Text)
  /-- The bracketed host is an address that needs no brackets. -/
  | bracketedIPv4
  /-- The authority holds a character that some readers take for a delimiter. -/
  | disguisedDelimiter (authority : Text)
deriving DecidableEq

/-- What is said about a refused URL. -/
def UrlFault.message : UrlFault → Text
  | misplacedBrackets => "Invalid IPv6 URL".toList
  | futureAddress => "IPvFuture address is invalid".toList
  | notAnAddress host => host.quoted ++ " does not appear to be an IPv4 or IPv6 address".toList
  | bracketedIPv4 => "An IPv4 address cannot be in brackets".toList
  | disguisedDelimiter authority =>
    "netloc '".toList ++ authority ++
      "' contains invalid characters under NFKC normalization".toList

namespace Url

/-! ## Scheme and authority -/

/-- The character may stand in the name of a scheme. -/
def isSchemeChar (c : Char) : Bool :=
  c.isAlpha || c.isDigit || c == '+' || c == '-' || c == '.'

/-- The text is the name of a scheme. -/
def isScheme (s : Text) : Bool :=
  (match s.head? with
    | some c => c.isAlpha
    | none => false) && s.all isSchemeChar

/-- The URL without its scheme; all of it when it has none. -/
def afterScheme (url : Text) : Text :=
  match url.past? ':' with
  | some rest => if isScheme (url.upTo ':') then rest else url
  | none => url

/-- The character ends an authority. -/
def endsAuthority (c : Char) : Bool := c == '/' || c == '?' || c == '#'

/-- What two slashes introduce, up to the first character that ends it; nothing when there are no
two slashes. -/
def authority (url : Text) : Text :=
  match afterScheme url with
  | '/' :: '/' :: rest => rest.takeWhile (!endsAuthority ·)
  | _ => []

/-! ## The host in an authority -/

/-- The authority without user information. -/
def location (authority : Text) : Text := authority.pastLast '@'

/-- The host in a location, without the brackets around it and without what a colon adds to it. -/
def hostOf (location : Text) : Text :=
  match location.past? '[' with
  | some bracketed => bracketed.upTo ']'
  | none => location.upTo ':'

/-- Lower case up to the first percent sign, and the rest as it is: a zone keeps its case. -/
def lowerHost (host : Text) : Text := (host.upTo '%').lower ++ host.dropWhile (· != '%')

/-! ## Checks -/

/-- Characters whose compatibility form holds a delimiter of URLs. -/
def disguisedDelimiters : List Char :=
  ['\u2047', '\u2048', '\u2049', '\u2100', '\u2101', '\u2105', '\u2106', '\u2a74', '\ufe13',
   '\ufe16', '\ufe55', '\ufe56', '\ufe5f', '\ufe6b', '\uff03', '\uff0f', '\uff1a', '\uff1f',
   '\uff20']

/-- An address of a future version: `v`, hexadecimal digits, a full stop, and something more. -/
def isFutureAddress (host : Text) : Bool :=
  match host with
  | 'v' :: rest =>
    -- No hexadecimal digit is a full stop, so the version ends at the first one.
    let version := Text.upTo '.' rest
    !version.isEmpty && version.all (fun c => (digitValue? c).isSome) &&
      match Text.past? '.' rest with
      | some address => !address.isEmpty && !address.contains '\n'
      | none => false
  | _ => false

/-- What stands in brackets is an address that needs them. -/
def checkBracketedHost (host : Text) : Except UrlFault Unit :=
  if host.head? = some 'v' then
    if isFutureAddress host then .ok () else .error .futureAddress
  else
    match IpAddress.parse? host with
    | none => .error (.notAnAddress host)
    | some (.v4 _) => .error .bracketedIPv4
    | some (.v6 _) => .ok ()

/-- Brackets, if there are any, enclose the host: nothing stands before them, and only what a colon
adds after them. -/
def checkBracketPlaces (location : Text) : Except UrlFault Unit :=
  match location.past? '[' with
  | none => .ok ()
  | some bracketed =>
    let after := (bracketed.past? ']').getD []
    if (location.upTo '[').isEmpty && (after.isEmpty || after.head? == some ':') then .ok ()
    else .error .misplacedBrackets

/-- Square brackets come in pairs, in the right place and around an address. -/
def checkBrackets (authority : Text) : Except UrlFault Unit :=
  if authority.contains '[' then
    if authority.contains ']' then do
      checkBracketPlaces (location authority)
      checkBracketedHost (hostOf (location authority))
    else .error .misplacedBrackets
  else if authority.contains ']' then .error .misplacedBrackets
  else .ok ()

/-- No character of the authority is a delimiter in disguise. -/
def checkDelimiters (authority : Text) : Except UrlFault Unit :=
  if authority.any disguisedDelimiters.contains then .error (.disguisedDelimiter authority)
  else .ok ()

/-- The host of a URL; empty when the URL has none. -/
def host (url : Text) : Except UrlFault Text := do
  let authority := authority url
  checkBrackets authority
  checkDelimiters authority
  return lowerHost (hostOf (location authority))

end Url

end PeerTrust
