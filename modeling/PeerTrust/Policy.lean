import PeerTrust.Identity.Matching
import PeerTrust.Report

/-!
The verification of a host name against the identities of a certificate.

A policy is a mode.  It lets a host pass in one of three ways: names are not verified at all, the
host is the local machine and the mode exempts it, or the host matches the identities, where the
mode decides how far a wildcard reaches.  A refusal carries the host as it was asked for and, for
the reader of a log, the names that the certificate did offer.
-/

namespace PeerTrust

/-- A policy for the verification of host names. -/
structure Policy where
  mode : Mode := .default
deriving DecidableEq, Repr

/-- The host is not among the identities of the certificate. -/
structure HostnameMismatch where
  host : Option Text
  mode : Mode
  detail : Text
deriving DecidableEq

/-- The refusal as callers see it, with the identifier of the mode. -/
def HostnameMismatch.report (e : HostnameMismatch) : Report :=
  .hostnameMismatch (.ofText? e.host) (.text e.mode.identifier) (.text e.detail)

namespace Policy

/-- A wildcard covers only one label under this mode. -/
def isStrict (p : Policy) : Bool := p.mode == .strict

/-- The host needs no match under this mode. -/
def exempts (p : Policy) (host : Text) : Bool :=
  match p.mode with
  | .allowAll => true
  | .defaultAndLocalhost => Host.isLoopback host
  | _ => false

/-- The host may be trusted to be the holder of the identities. -/
def accepts (p : Policy) (host : Text) (ids : IdentitySet) : Bool :=
  p.exempts host || ids.matchesHost p.isStrict host

/-- What a certificate offered instead of the host. -/
def mismatchDetail (ids : IdentitySet) : Text :=
  match ids.candidates with
  | [] => "certificate doesn't contain CN or DNS subjectAlt".toList
  | names =>
    "doesn't match any of ".toList ++ [',', ' '].intercalate (names.map Value.literal)

/-- Verifies a host, or refuses it with the names that the certificate did offer. -/
def evaluate (p : Policy) (host : Option Text) (ids : IdentitySet) :
    Except HostnameMismatch Unit :=
  if p.accepts (host.getD []) ids then .ok ()
  else .error ⟨host, p.mode, mismatchDetail ids⟩

theorem evaluate_eq_ok_iff {p : Policy} {host : Option Text} {ids : IdentitySet} :
    p.evaluate host ids = .ok () ↔ p.accepts (host.getD []) ids = true := by
  unfold evaluate
  split
  · next h => exact iff_of_true rfl h
  · next h => exact iff_of_false (fun hok => by cases hok) h

end Policy

end PeerTrust
