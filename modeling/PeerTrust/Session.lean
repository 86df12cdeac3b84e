import PeerTrust.Report

/-!
Sessions and the certificate chain of their peer.

After a handshake the session is asked for the certificates that the peer presented, the leaf
first.  A session may hold them already parsed.  A live one holds what the peer sent: the whole
chain if the transport can tell it, and otherwise only the leaf.  What a peer sent need not be
certificates at all, so asking may fail.
-/

namespace PeerTrust

/-- What the peer sent in the place of a certificate: its encoding, or something else. -/
inductive Encoded (C : Type) where
  | certificate (c : C)
  | garbage

/-- What the peer sent is no certificate. -/
structure Unparsable where
deriving DecidableEq

/-- The failure as callers see it: an error of the parser, which says nothing about itself. -/
def Unparsable.report (_ : Unparsable) : Report := .plain .value none

/-- The certificate in an encoding. -/
def Encoded.parse {C : Type} : Encoded C → Except Unparsable C
  | certificate c => .ok c
  | garbage => .error ⟨⟩

/-- A session after its handshake. -/
inductive Session (C : Type) where
  /-- The chain is known. -/
  | parsed (chain : List C)
  /-- The chain and the leaf as the transport tells them, each perhaps missing. -/
  | live (chain : List (Encoded C)) (leaf : Option (Encoded C))

namespace Session

variable {C : Type}

/-- The certificates that the peer presented, the leaf first. -/
def peerChain : Session C → Except Unparsable (List C)
  | parsed chain => .ok chain
  | live [] leaf => leaf.toList.mapM Encoded.parse
  | live (c :: cs) _ => (c :: cs).mapM Encoded.parse

end Session

end PeerTrust
