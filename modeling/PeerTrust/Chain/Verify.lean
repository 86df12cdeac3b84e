import PeerTrust.Chain.Path
import PeerTrust.Report

/-!
The verification of a certificate chain against trust anchors.

A chain is verified in four passes over the path from its leaf to a trust anchor: the path must
exist, every certificate on it must be valid at the given instant, every certificate between the
leaf and the anchor must be an authority with room for those below it, and every signature must
verify.  The first failure, in this order and from the leaf upward, is reported.  The anchor is
trusted by configuration, so its own constraints are not examined; revocation is not checked.
Which instant is the given one is decided by the trust store.
-/

namespace PeerTrust.Chain

open X509

/-! ## Failures -/

/-- Why a chain is not verified. -/
inductive Fault (C : Type) where
  | empty
  | path (fault : PathFault C)
  | notYetValid (certificate : C)
  | expired (certificate : C)
  /-- The extensions of an authority cannot be read. -/
  | unreadable (certificate : C)
  /-- A certificate that issued others is no authority; `depth` certificates stand between it and
  the leaf. -/
  | notAuthority (depth : Nat)
  /-- More authorities stand below one than it allows. -/
  | pathTooLong (depth : Nat)
  | badSignature (certificate : C)
deriving DecidableEq

section Messages

variable {C : Type} [X509 C]

/-- A message about the holder of a certificate. -/
def about (words : String) (c : C) : Text := words.toList ++ subjectText c

/-- What is said when there is no path. -/
def PathFault.message : PathFault C → Text
  | noIssuer c => about "Cannot find issuer for certificate: " c
  | cycle i => about "Certificate chain cycle detected: " i

/-- The failure as callers see it.  That extensions cannot be read is an error of their parser,
which says nothing about itself. -/
def Fault.report : Fault C → Report
  | empty => .plain .certificateChain "Empty certificate chain".toList
  | path fault => .plain .certificateChain fault.message
  | notYetValid c => .plain .certificateExpired (about "Certificate not yet valid: " c)
  | expired c => .plain .certificateExpired (about "Certificate expired: " c)
  | unreadable _ => .plain .value none
  | notAuthority depth =>
    .plain .certificateChain
      ("Intermediate certificate at depth ".toList ++ Nat.toDigits 10 depth ++
        " is not a CA".toList)
  | pathTooLong depth =>
    .plain .certificateChain
      ("Path length constraint violated at depth ".toList ++ Nat.toDigits 10 depth)
  | badSignature c =>
    .plain .certificateVerification (about "Signature verification failed for: " c)

end Messages

/-! ## The passes -/

section Passes

variable {C : Type} [X509 C]

/-- The certificate is valid at the instant; both ends of its time of validity count. -/
def checkValidity (now : Instant) (c : C) : Except (Fault C) Unit :=
  if now < notBefore c then .error (.notYetValid c)
  else if notAfter c < now then .error (.expired c)
  else .ok ()

/-- The certificate is an authority that allows `depth` others between itself and the leaf. -/
def checkAuthority (c : C) (depth : Nat) : Except (Fault C) Unit :=
  match extensions c with
  | none => .error (.unreadable c)
  | some e =>
    match e.basicConstraints with
    | some ⟨true, none⟩ => .ok ()
    | some ⟨true, some limit⟩ => if depth ≤ limit then .ok () else .error (.pathTooLong depth)
    | _ => .error (.notAuthority depth)

/-- The first certificate was issued by the second. -/
def checkSignature (c issuer : C) : Except (Fault C) Unit :=
  if issuedBy c issuer then .ok () else .error (.badSignature c)

/-- What stands between the ends of a path, each with the number of those before it. -/
def authorities (path : List C) : List (C × Nat) := path.tail.dropLast.zipIdx

/-- The neighbours on a path. -/
def links (path : List C) : List (C × C) := path.zip path.tail

/-- The passes over a path that reaches an anchor. -/
def checkPath (now : Instant) (path : List C) : Except (Fault C) Unit := do
  path.forM (checkValidity now)
  (authorities path).forM fun (c, depth) => checkAuthority c depth
  (links path).forM fun (c, issuer) => checkSignature c issuer

end Passes

/-! ## Verification -/

variable {C : Type} [X509 C] [DecidableEq C]

/-- Verifies a chain, the leaf first and the rest in any order, at an instant. -/
def verify (anchors : List C) (now : Instant) : (chain : List C) → Except (Fault C) Unit
  | [] => .error .empty
  | leaf :: presented =>
    match buildPath anchors presented leaf with
    | .error fault => .error (.path fault)
    | .ok path => checkPath now path

end PeerTrust.Chain
