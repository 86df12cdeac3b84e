import PeerTrust.Handshake.Config

/-!
Engines and their configuration.

An engine performs handshakes and can be limited to some protocol versions and to some ciphers.
Configuration sets the protocols first and the ciphers second, leaves alone what the configuration
does not mention or has no names for, and stops at the first refusal.  An engine is given by what
its two settings do in some monad, so the same configuration drives an engine that only keeps a
record of its calls.

The recording engine notes every call and refuses the names on a list.  The note is made before the
refusal, so the record shows what the engine was asked and not only what it accepted.
-/

namespace PeerTrust

/-- What an engine can be limited in. -/
inductive HandshakeParameter where
  | protocols
  | ciphers
deriving DecidableEq, Repr

/-- The name of a parameter. -/
def HandshakeParameter.label : HandshakeParameter → Text
  | protocols => "protocols".toList
  | ciphers => "ciphers".toList

/-- Why an engine refuses a setting. -/
inductive EngineFault where
  /-- These values are not supported, for the given reason. -/
  | unsupported (parameter : HandshakeParameter) (values : List Text) (reason : Text)
  /-- A list without protocols has no lowest and no highest version. -/
  | noProtocols
  /-- No request for ciphers can hold the character NUL. -/
  | nulCharacter
deriving DecidableEq

/-- The refusal as callers see it. -/
def EngineFault.report : EngineFault → Report
  | unsupported parameter values reason =>
    .unsupportedParameter (.text parameter.label) values (.text reason)
  | noProtocols => .plain .index "list index out of range".toList
  | nulCharacter => .plain .value "embedded null character".toList

/-- An engine, by its two settings. -/
structure Engine (m : Type → Type) where
  enableProtocols : List Text → m (Except EngineFault Unit)
  enableCiphers : List Text → m (Except EngineFault Unit)

namespace Engine

variable {m : Type → Type} [Monad m]

/-- Applies a setting to a list of names, if it asks for any. -/
def applyNames (setting : List Text → m (Except EngineFault Unit)) (list : NameList) :
    m (Except EngineFault Unit) :=
  match list.asked with
  | none => return .ok ()
  | some names => setting names

/-- Limits the engine as configured, protocols first. -/
def configure (engine : Engine m) (config : HandshakeConfig) : m (Except EngineFault Unit) := do
  match ← applyNames engine.enableProtocols config.protocols with
  | .error fault => return .error fault
  | .ok () => applyNames engine.enableCiphers config.ciphers

end Engine

/-! ## Records -/

/-- A call of one of the settings of an engine. -/
structure EngineCall where
  parameter : HandshakeParameter
  names : List Text
deriving DecidableEq

namespace Engine

/-- Notes a call and then refuses those names that are to be rejected. -/
def noteCall (reject : List Text) (parameter : HandshakeParameter) (names : List Text) :
    StateM (List EngineCall) (Except EngineFault Unit) := do
  modify (· ++ [⟨parameter, names⟩])
  match names.filter reject.contains with
  | [] => return .ok ()
  | rejected => return .error (.unsupported parameter rejected "rejected by engine".toList)

/-- The engine that notes its calls and rejects these names. -/
def recording (reject : List Text) : Engine (StateM (List EngineCall)) where
  enableProtocols := noteCall reject .protocols
  enableCiphers := noteCall reject .ciphers

end Engine

end PeerTrust
