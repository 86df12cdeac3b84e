import PeerTrust.Handshake.Config
import PeerTrust.Policy

/-!
The configuration of a client.

A configuration is read from four settings of no fixed type, each of which may be missing.  They
come from a caller or from the environment, where every setting is a text.  Once made, a
configuration does not change.

When several settings are wrong, one that has the wrong type altogether is reported before a mode
that does not exist.
-/

namespace PeerTrust

/-- The settings of a client as they are given. -/
structure ClientSettings where
  hostnameVerifier : Value := .null
  httpsProtocols : Value := .null
  preferredCiphers : Value := .null
  trustStorePaths : Value := .null

/-- The configuration of a client. -/
structure ClientConfig where
  mode : Mode
  httpsProtocols : NameList
  preferredCiphers : NameList
  trustStorePaths : List Text
deriving DecidableEq

/-- Why settings give no configuration. -/
inductive ConfigFault where
  | notIterable (fault : Value.NotIterable)
  | unknownVerifier (fault : Mode.UnknownSetting)

/-- The fault as callers see it. -/
def ConfigFault.report : ConfigFault → Report
  | notIterable fault => fault.report
  | unknownVerifier fault =>
    .invalidSettings [("hostname_verifier".toList, .refused fault.message)]

namespace ClientSettings

/-- The entries of a value that names files: a text, or a path for that matter, has colons between
them. -/
def pathEntries (v : Value) : Except Value.NotIterable (List Value) :=
  match v, v.pathText? with
  | .null, _ => .ok []
  | _, some s => .ok ((s.splitOn ':').map .text)
  | v, none => v.elements

/-- The paths that a value gives.  They are trimmed, and blank ones are dropped. -/
def paths (v : Value) : Except Value.NotIterable (List Text) := do
  return ((← pathEntries v).map (·.display.trim)).filter (!·.isEmpty)

/-- The settings in an environment of named texts. -/
def ofEnvironment (lookup : Text → Option Text) : ClientSettings :=
  let setting (name : String) : Value := ((lookup name.toList).map .text).getD .null
  { hostnameVerifier := setting "TLS_HOSTNAME_VERIFIER"
    httpsProtocols := setting "TLS_HTTPS_PROTOCOLS"
    preferredCiphers := setting "TLS_PREFERRED_CIPHERS"
    trustStorePaths := setting "TLS_TRUST_STORE" }

/-- The configuration that settings describe. -/
def toConfig (s : ClientSettings) : Except ConfigFault ClientConfig := do
  -- The mode comes last: a value of the wrong type elsewhere is reported before it.
  let protocols ← (NameList.ofValue s.httpsProtocols).mapError .notIterable
  let ciphers ← (NameList.ofValue s.preferredCiphers).mapError .notIterable
  let paths ← (paths s.trustStorePaths).mapError .notIterable
  let mode ← (Mode.ofSetting s.hostnameVerifier).mapError .unknownVerifier
  return ⟨mode, protocols, ciphers, paths⟩

end ClientSettings

namespace ClientConfig

/-- The policy for host names. -/
def policy (c : ClientConfig) : Policy := ⟨c.mode⟩

/-- The limits for handshakes, which are read once more from the lists of names. -/
def handshake (c : ClientConfig) : HandshakeConfig where
  protocols := NameList.reread c.httpsProtocols
  ciphers := NameList.reread c.preferredCiphers

/-- What an attempt to change a setting is answered with. -/
def assignReport (_ : ClientConfig) (field : Text) : Report := .invalidSettings [(field, .frozen)]

end ClientConfig

end PeerTrust
