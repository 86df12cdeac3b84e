import PeerTrust.Certificate.Basic
import PeerTrust.Endpoint.Resolve
import PeerTrust.Handshake.Config
import PeerTrust.Policy
import PeerTrust.Session

/-!
The validation of a peer after the handshake.

Validation has three stages: the intended host is resolved, its name is verified against the
identities of the leaf under the policy, and the chain is given to a verifier, if there is one.
Each stage runs only when those before it passed, so a peer with the wrong name is refused before
its chain is looked at.

Sessions and verifiers are given by what they do in some monad.  In a monad that records its
actions, how often and with what a verifier was called is part of the result.
-/

namespace PeerTrust

/-- Why the chain of a peer is refused, for a verifier with errors of type `ε`. -/
inductive ChainRefusal (ε : Type) where
  /-- The peer presented no certificate, so there was nothing to verify. -/
  | noCertificate
  /-- The verifier refused the chain. -/
  | rejected (error : ε)

/-- Why a peer is refused. -/
inductive PeerFault (ε : Type) where
  | hint (fault : MalformedHint)
  | session (fault : Unparsable)
  | hostname (fault : HostnameMismatch)
  | chain (host : Text) (refusal : ChainRefusal ε)

/-- The refusal of a chain as callers see it, given how they see the errors of the verifier. -/
def ChainRefusal.report {ε : Type} (errorReport : ε → Report) : ChainRefusal ε → Report
  | noCertificate => .plain .certificateChain "Peer presented no certificate".toList
  | rejected error => errorReport error

/-- The refusal of a peer as callers see it, given how they see the errors of the verifier. -/
def PeerFault.report {ε : Type} (errorReport : ε → Report) : PeerFault ε → Report
  | hint fault => fault.report
  | session fault => fault.report
  | hostname fault => fault.report
  | chain host refusal => .chainValidation (.text host) (refusal.report errorReport)

/-- What is known of one connection: where it leads, what was asked for before it was made, and the
limits for its handshake. -/
structure Connection where
  address : Value := .null
  hint : Option Text := none
  handshake : HandshakeConfig := {}

/-- A policy for host names and perhaps a verifier for chains. -/
structure Validator (m : Type → Type) (C ε : Type) where
  policy : Policy
  verifier : Option (List C → m (Except ε Unit))

namespace Validator

variable {m : Type → Type} [Monad m] {C ε : Type} [X509 C]

/-- The identities to verify a host against: those of the leaf, or none when the peer presented no
certificate.  A policy that verifies no names does not look at the certificate. -/
def presentedIdentities (policy : Policy) : List C → IdentitySet
  | [] => .empty
  | leaf :: _ => if policy.mode = .allowAll then .empty else X509.identities leaf

/-- The last stage: the chain is given to the verifier, if there is one. -/
def verifyChain (v : Validator m C ε) (host : Text) (chain : List C) :
    m (Except (PeerFault ε) Unit) :=
  match v.verifier, chain with
  | none, _ => return .ok ()
  | some _, [] => return .error (.chain host .noCertificate)
  | some verify, leaf :: rest => do
    match ← verify (leaf :: rest) with
    | .ok () => return .ok ()
    | .error e => return .error (.chain host (.rejected e))

/-- Validates the peer of a session that was opened to the endpoint of the hint, or else to the
address of the socket. -/
def validate (v : Validator m C ε) (peerChain : m (Except Unparsable (List C)))
    (hint : Option Text) (address : Value) : m (Except (PeerFault ε) Unit) :=
  match Endpoint.resolve hint address with
  | .error fault => return .error (.hint fault)
  | .ok host => do
    match ← peerChain with
    | .error fault => return .error (.session fault)
    | .ok chain =>
      match v.policy.evaluate host (presentedIdentities v.policy chain) with
      | .error fault => return .error (.hostname fault)
      | .ok () => v.verifyChain host chain

/-- Validates the peer of a session that was opened for a connection. -/
def validateConnection (v : Validator m C ε) (connection : Connection)
    (peerChain : m (Except Unparsable (List C))) : m (Except (PeerFault ε) Unit) :=
  v.validate peerChain connection.hint connection.address

end Validator

end PeerTrust
