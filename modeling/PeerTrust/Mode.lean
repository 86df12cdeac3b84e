import PeerTrust.Value.Basic
import PeerTrust.Text.Lower

/-!
Verification modes and their two kinds of names.

Every mode has one identifier, which is matched exactly (`Mode.ofIdentifier`).  In settings a mode
may be spelled more freely: `Mode.ofSetting` trims the text, ignores case and drops underscores
and hyphens before it looks the spelling up, and takes a missing or blank setting for the default.
-/

namespace PeerTrust

/-- How strictly the name of a peer is verified. -/
inductive Mode where
  /-- A wildcard covers exactly one label. -/
  | strict
  /-- A wildcard covers any number of labels. -/
  | default
  /-- As `default`, but names of the local machine pass unconditionally. -/
  | defaultAndLocalhost
  /-- Names are not verified at all. -/
  | allowAll
deriving DecidableEq, Repr

namespace Mode

/-- All modes. -/
def all : List Mode := [strict, default, defaultAndLocalhost, allowAll]

/-! ## Identifiers -/

/-- The identifier of a mode. -/
def identifier : Mode → Text
  | strict => "strict".toList
  | default => "default".toList
  | defaultAndLocalhost => "default_and_localhost".toList
  | allowAll => "allow_all".toList

/-- A value that is no identifier of a mode. -/
structure UnknownIdentifier where
  given : Value

/-- What is said about a value that is no identifier of a mode. -/
def UnknownIdentifier.message (e : UnknownIdentifier) : Text :=
  e.given.literal ++ " is not a valid VerificationMode".toList

/-- The mode with this identifier. -/
def ofIdentifier? (name : Text) : Option Mode := all.find? (·.identifier == name)

/-- The mode that a value identifies. -/
def ofIdentifier (v : Value) : Except UnknownIdentifier Mode :=
  match v.text?.bind ofIdentifier? with
  | some mode => .ok mode
  | none => .error ⟨v⟩

/-- An identifier leads back to its mode. -/
@[simp] theorem ofIdentifier?_identifier (m : Mode) : ofIdentifier? m.identifier = some m := by
  cases m <;> decide

/-! ## Spellings in settings -/

/-- The spelling of a mode, reduced to what is compared. -/
def settingKey : Mode → Text
  | strict => "strict".toList
  | default => "default".toList
  | defaultAndLocalhost => "defaultandlocalhost".toList
  | allowAll => "allowall".toList

/-- A setting reduced to what is compared: trimmed, in lower case, without `_` and `-`. -/
def reduceSetting (s : Text) : Text := s.fold.filter fun c => c != '_' && c != '-'

/-- A setting that spells no mode. -/
structure UnknownSetting where
  given : Value

/-- What is said about a setting that spells no mode. -/
def UnknownSetting.message (e : UnknownSetting) : Text :=
  "Unknown hostname verifier '".toList ++ e.given.display ++
    "', expected one of: Strict, Default, DefaultAndLocalhost, AllowAll".toList

/-- The mode that a setting spells.  No setting, or a blank one, means the default. -/
def ofSetting (v : Value) : Except UnknownSetting Mode :=
  match v with
  | .null => .ok .default
  | v =>
    if v.display.isAllBlank then .ok .default
    else
      match all.find? (·.settingKey == reduceSetting v.display) with
      | some mode => .ok mode
      | none => .error ⟨v⟩

end Mode

end PeerTrust
