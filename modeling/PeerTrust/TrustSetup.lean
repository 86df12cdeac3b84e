import PeerTrust.ClientConfig
import PeerTrust.TrustStore.Basic
import PeerTrust.TrustStore.Files
import PeerTrust.Validator

/-!
From a configuration to a validator.

A configuration names a policy and the files of a trust store.  Files that cannot be loaded are an
error, and only a configuration without any path leaves the verification of chains out.

The files at all paths are read in order, and the first one that cannot be read or holds no
certificates is an error.  So anchors are loaded from all paths or from none: a file that was
named is never left out in silence.

The library stands on others, and what it asks of them is given from outside: what a certificate
says and which signatures verify (`X509`), how a path is read, what the clock of the machine shows
and which versions a context refuses (`Refusal`).  Some things are left out altogether:

* log messages, sockets, and handshakes as such;
* failures of reading a file other than those of `ReadFault`, errors of the file system and
  unsuitable values, which are the ones that loading reports;
* failures of reading a certificate other than those that `X509` has;
* the words by which a request for ciphers asks for a group of them (`CipherTable.groups`);
* values without a text of their own.
-/

namespace PeerTrust

/-! ## Loading -/

/-- The cause of a failure to read, as callers see it. -/
def ReadFault.category : ReadFault → Category
  | notFound => .fileNotFound
  | isDirectory => .isDirectory
  | notDirectory => .notDirectory
  | nameTooLong => .os
  | illegalPath => .value
  | malformed => .value

/-- A trust store cannot be loaded, because this path cannot be read. -/
structure StoreFault where
  path : Text
  cause : ReadFailure
deriving DecidableEq

/-- The fault as callers see it. -/
def StoreFault.report (e : StoreFault) : Report :=
  .unreadableStore e.path e.cause.fault.category e.cause.detail

/-- The certificates of all files, given how a file is read. -/
def loadAnchors {C : Type} (read : Text → Except ReadFailure (List C)) :
    (paths : List Text) → Except StoreFault (List C)
  | [] => .ok []
  | path :: paths =>
    match read path with
    | .error cause => .error ⟨path, cause⟩
    | .ok certificates =>
      match loadAnchors read paths with
      | .error fault => .error fault
      | .ok more => .ok (certificates ++ more)

/-! ## Validators -/

/-- What a configuration provides for the validation of peers: a policy for host names, and a
trust store unless chains are not to be verified. -/
structure TrustSetup (C : Type) where
  policy : Policy
  store : Option (TrustStore C)

namespace TrustSetup

variable {C : Type}

/-- What a configuration provides, given how a file is read. -/
def ofConfig (read : Text → Except ReadFailure (List C)) (config : ClientConfig) :
    Except StoreFault (TrustSetup C) := do
  let anchors ← loadAnchors read config.trustStorePaths
  return ⟨config.policy, TrustStore.ofAnchors? anchors⟩

/-- The validator that works with this at a given instant. -/
def validator [X509 C] [DecidableEq C] (setup : TrustSetup C) (now : Instant) :
    Validator Id C (Chain.Fault C) where
  policy := setup.policy
  verifier := setup.store.map fun store chain => store.verify now chain

end TrustSetup

end PeerTrust
