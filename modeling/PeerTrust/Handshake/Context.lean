import PeerTrust.Handshake.CipherRequest
import PeerTrust.Handshake.Engine
import PeerTrust.Report.Arguments

/-!
A context for TLS connections as an engine.

A context cannot enable versions one by one; it knows a lowest and a highest version.  So a list
of protocols must name every version between its lowest and its highest.  The two bounds are set
one after the other, and a context may refuse to take a version for either: one that is made for a
single version, for instance, takes none at all.  Which it refuses is a matter of the library behind
the context and a parameter here (`Refusal`).

Ciphers are selected by one request, for which the names are joined with colons.  A request that
selects nothing is an error and leaves only the ciphers of the newest protocol version, which are
always enabled, before all others; a request that cannot be read is the same error and changes
nothing.
-/

namespace PeerTrust

/-! ## Versions -/

/-- A protocol version, in the order of their age. -/
inductive Version where
  | ssl3
  | tls1
  | tls11
  | tls12
  | tls13
deriving DecidableEq, Repr

namespace Version

/-- All versions, the oldest first. -/
def all : List Version := [ssl3, tls1, tls11, tls12, tls13]

/-- The place of a version among all versions. -/
def rank : Version → Nat
  | ssl3 => 0
  | tls1 => 1
  | tls11 => 2
  | tls12 => 3
  | tls13 => 4

/-- The name of a version in a list of protocols. -/
def name : Version → Text
  | ssl3 => "SSLv3".toList
  | tls1 => "TLSv1".toList
  | tls11 => "TLSv1.1".toList
  | tls12 => "TLSv1.2".toList
  | tls13 => "TLSv1.3".toList

/-- The version with this name. -/
def ofName? (s : Text) : Option Version := all.find? (·.name == s)

/-- Puts a version in its place among others in ascending order, unless it is there already. -/
def insert (v : Version) : List Version → List Version
  | [] => [v]
  | w :: ws =>
    if v.rank < w.rank then v :: w :: ws
    else if v = w then w :: ws
    else w :: insert v ws

/-- The versions in ascending order, each once. -/
def ascending (vs : List Version) : List Version := vs.foldr insert []

end Version

/-- The versions from a lowest to a highest. -/
structure VersionRange where
  lowest : Version
  highest : Version
deriving DecidableEq, Repr

namespace VersionRange

/-- The version lies in the range. -/
def contains (r : VersionRange) (v : Version) : Bool :=
  r.lowest.rank ≤ v.rank && v.rank ≤ r.highest.rank

/-- The places of the versions in the range, in ascending order. -/
def ranks (r : VersionRange) : List Nat :=
  List.range' r.lowest.rank (r.highest.rank + 1 - r.lowest.rank)

end VersionRange

/-! ## Bounds -/

/-- One end of the versions that a context allows. -/
inductive Bound where
  | lowest
  | highest
deriving DecidableEq, Repr

/-- The versions that a context allows.  A bound that was never set is as the context was made. -/
structure VersionBounds where
  lowest : Option Version := none
  highest : Option Version := none
deriving DecidableEq, Repr

/-- The bounds with a version for one of them. -/
def VersionBounds.set (bounds : VersionBounds) : Bound → Version → VersionBounds
  | .lowest, v => { bounds with lowest := some v }
  | .highest, v => { bounds with highest := some v }

/-- The bounds of a range. -/
def VersionRange.bounds (r : VersionRange) : VersionBounds := ⟨some r.lowest, some r.highest⟩

/-- What a context refuses: the reason for which it does not take a version for a bound, when its
bounds are these. -/
structure Refusal where
  reason? : VersionBounds → Bound → Version → Option Text

/-- Nothing is refused. -/
def Refusal.never : Refusal := ⟨fun _ _ _ => none⟩

/-! ## The context -/

/-- The state of a context.  Ciphers that were never set are as the context was made. -/
structure TlsContext where
  versions : VersionBounds := {}
  ciphers : Option (List Text) := none
deriving DecidableEq

/-- What limiting a context does: an answer and a changed context. -/
abbrev ContextM := StateM TlsContext

namespace TlsContext

/-- The range of versions that a list of names denotes, when the context can be set to it. -/
def versionRange (names : List Text) : Except EngineFault VersionRange :=
  match names.filter fun name => (Version.ofName? name).isNone with
  | name :: more =>
    .error (.unsupported .protocols (name :: more) "unknown protocol name".toList)
  | [] =>
    -- All names are known from here on.
    match Version.ascending (names.filterMap Version.ofName?) with
    | [] => .error .noProtocols
    | first :: rest =>
      let range : VersionRange := ⟨first, rest.getLastD first⟩
      if (first :: rest).map Version.rank = range.ranks then .ok range
      else
        .error (.unsupported .protocols names
          "protocol versions must form a contiguous range".toList)

/-- Sets one bound, unless it is refused. -/
def setBound (refusal : Refusal) (bound : Bound) (v : Version) : ExceptT Text ContextM Unit := do
  let c ← get
  match refusal.reason? c.versions bound v with
  | some reason => throw reason
  | none => set { c with versions := c.versions.set bound v }

/-- Sets both bounds, the lowest first.  When the highest is refused, the lowest is set already. -/
def setRange (refusal : Refusal) (range : VersionRange) : ExceptT Text ContextM Unit := do
  setBound refusal .lowest range.lowest
  setBound refusal .highest range.highest

/-- Sets the range of versions.  A list that denotes none changes nothing. -/
def enableProtocols (refusal : Refusal) (names : List Text) :
    ContextM (Except EngineFault Unit) := do
  match versionRange names with
  | .error fault => return .error fault
  | .ok range =>
    let answer ← (setRange refusal range).run
    return answer.mapError (.unsupported .protocols names)

/-- A request of which no cipher can be selected. -/
def noCipher (names : List Text) : EngineFault :=
  .unsupported .ciphers names "('No cipher can be selected.',)".toList

/-- Sets the ciphers.  A request of which nothing can be selected fails and leaves only those that
are always enabled; one that cannot be read changes nothing. -/
def enableCiphers (table : CipherTable) (names : List Text) :
    ContextM (Except EngineFault Unit) := do
  let request := [':'].intercalate names
  if request.contains '\x00' then return .error .nulCharacter
  match CipherRequest.select? table request with
  | none => return .error (noCipher names)
  | some selected =>
    modify ({ · with ciphers := some (table.fixed ++ selected) })
    return if selected.isEmpty then .error (noCipher names) else .ok ()

/-- The context as an engine. -/
def engine (table : CipherTable) (refusal : Refusal) : Engine ContextM where
  enableProtocols := enableProtocols refusal
  enableCiphers := enableCiphers table

/-- One thing that can be done to a context. -/
inductive Action where
  /-- Its protocols are set directly. -/
  | protocols (names : List Text)
  /-- Its ciphers are set directly. -/
  | ciphers (names : List Text)
  /-- It is limited as configured. -/
  | configure (config : HandshakeConfig)

namespace Action

/-- The value can be looked up by: it is not a collection that could change. -/
def isKey : Value → Bool
  | .list _ | .table _ => false
  | .object o => o.isKey
  | _ => true

/-- The value is the name of a version. -/
def namesVersion (v : Value) : Bool := (v.text?.bind Version.ofName?).isSome

/-- Setting the protocols in a value as it is given.  Each is looked up first; those that name no
version are listed, for which they must be texts. -/
def ofProtocols (v : Value) : Except ArgumentFault Action := do
  let names ← v.elements.mapError .notIterable
  match names.find? (!isKey ·) with
  | some name => throw (.notKey name.kind)
  | none =>
    let _ ← textsFrom 0 (names.filter (!namesVersion ·))
    return .protocols (← textsFrom 0 names)

/-- Setting the ciphers in a value as it is given.  Their names are joined, for which they must be
texts. -/
def ofCiphers (v : Value) : Except ArgumentFault Action := do
  match v.elements with
  | .error _ => throw .notJoinable
  | .ok names => return .ciphers (← textsFrom 0 names)

end Action

/-- Does it. -/
def Action.run (table : CipherTable) (refusal : Refusal) :
    Action → ContextM (Except EngineFault Unit)
  | protocols names => enableProtocols refusal names
  | ciphers names => enableCiphers table names
  | configure config => (engine table refusal).configure config

/-- The ciphers of the usual build of the engine. -/
def usualCiphers : CipherTable where
  fixed :=
    ["TLS_AES_256_GCM_SHA384".toList, "TLS_CHACHA20_POLY1305_SHA256".toList,
     "TLS_AES_128_GCM_SHA256".toList]
  selectable :=
    [⟨"ECDHE-ECDSA-AES256-GCM-SHA384".toList, 256⟩, ⟨"ECDHE-RSA-AES128-GCM-SHA256".toList, 128⟩,
     ⟨"AES128-SHA".toList, 128⟩, ⟨"AES256-SHA".toList, 256⟩, ⟨"AES128-GCM-SHA256".toList, 128⟩,
     ⟨"DHE-RSA-AES256-GCM-SHA384".toList, 256⟩, ⟨"ECDHE-RSA-CHACHA20-POLY1305".toList, 256⟩]
  groups :=
    ["ALL".toList, "DEFAULT".toList, "COMPLEMENTOFALL".toList, "COMPLEMENTOFDEFAULT".toList,
     "HIGH".toList, "MEDIUM".toList, "LOW".toList, "NULL".toList, "RSA".toList, "DHE".toList,
     "ECDHE".toList, "ECDSA".toList, "PSK".toList, "AES".toList, "AES128".toList,
     "AES256".toList, "AESGCM".toList, "CHACHA20".toList, "SHA".toList, "SHA256".toList,
     "SHA384".toList]

end TlsContext

end PeerTrust
