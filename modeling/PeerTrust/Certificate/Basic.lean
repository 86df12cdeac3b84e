import PeerTrust.Certificate.Name
import PeerTrust.Identity.Set
import PeerTrust.Instant
import PeerTrust.IpAddress

/-!
What the library needs to know of a certificate.

Parsing certificates and checking signatures is not the business of this library.  It works on any
type of certificates that can tell their names, their time of validity, their extensions and
whether one was issued by another (`X509`).  Extensions are read together, and a certificate whose
extensions are damaged tells none of them.

Two things are assumed of a parser.  When it cannot read extensions it says so by one error, that of
an unsuitable value, for which the extraction of identities is prepared; and every way in which the
check of a signature can fail counts as a signature that does not verify.  A parser that fails in
further ways, for want of an algorithm or of memory, is not described by `X509`.

The identities in a certificate (`X509.identities`) are the common names of the subject, the most
specific first, and the DNS names and IP addresses among the alternative names.  Extraction is all
or nothing: from a certificate with damaged extensions no identity is taken at all, because its
common names alone might be broader than what the issuer meant to certify.

`Certificate` gives a certificate by its description.  A described certificate says what a parsed
one would tell.  In place of a signature it names the key that signed it, so a signature verifies
exactly when that key is the key of the issuer.  Two certificates are the same only if their
descriptions are.
-/

namespace PeerTrust

/-- Whether a certificate may issue others, and how many authorities may follow it on the way to
a leaf. -/
structure BasicConstraints where
  isAuthority : Bool
  pathLength : Option Nat
deriving DecidableEq, Repr

/-- An alternative name of the holder of a certificate. -/
inductive GeneralName where
  | dns (name : Text)
  | ip (address : IpAddress)
  | email (address : Text)
  | uri (uri : Text)
  | registeredId (identifier : Text)
  | directory (name : DistinguishedName)
deriving DecidableEq, Repr

/-- The extensions that matter here; each may be absent. -/
structure Extensions where
  basicConstraints : Option BasicConstraints
  altNames : Option (List GeneralName)
deriving DecidableEq, Repr

/-- Certificates, seen through the questions that are asked of them. -/
class X509 (C : Type) where
  /-- The name of the holder. -/
  subject : C → DistinguishedName
  /-- The name of the holder as it is shown. -/
  subjectText : C → Text
  /-- The name of the issuer. -/
  issuer : C → DistinguishedName
  /-- The first certificate was issued and signed by the holder of the second. -/
  issuedBy : C → C → Bool
  /-- The first instant of validity. -/
  notBefore : C → Instant
  /-- The last instant of validity. -/
  notAfter : C → Instant
  /-- The extensions, unless they are damaged; that is the one failure of reading them. -/
  extensions : C → Option Extensions

/-! ## Identities -/

namespace X509

variable {C : Type} [X509 C]

/-- The common names of the subject, the most specific first. -/
def commonNames (c : C) : List Text := ((subject c).values .commonName).reverse

/-- The text of an alternative name that can identify a host. -/
def hostName? : GeneralName → Option Text
  | .dns name => some name
  | .ip address => some address.toText
  | _ => none

/-- The DNS names and IP addresses among the alternative names, unless the extensions are
damaged. -/
def altNames? (c : C) : Option (List Text) :=
  (extensions c).map fun e => (e.altNames.getD []).filterMap hostName?

/-- The identities of the holder; none when the extensions are damaged. -/
def identities (c : C) : IdentitySet :=
  match altNames? c with
  | some altNames => .ofTexts (commonNames c) altNames
  | none => .empty

end X509

/-! ## Described certificates -/

/-- A certificate by its description. -/
structure Certificate where
  subject : DistinguishedName
  issuer : DistinguishedName
  key : Text
  signer : Text
  serial : Int
  notBefore : Instant
  notAfter : Instant
  extensions : Extensions
  /-- The extensions cannot be read. -/
  damaged : Bool
deriving DecidableEq, Repr

/-- Issuing means that the names link up and that the key of the issuer made the signature. -/
instance : X509 Certificate where
  subject := Certificate.subject
  subjectText c := c.subject.toText
  issuer := Certificate.issuer
  issuedBy c i := c.issuer == i.subject && c.signer == i.key
  notBefore := Certificate.notBefore
  notAfter := Certificate.notAfter
  extensions c := if c.damaged then none else some c.extensions

end PeerTrust
