import PeerTrust.Value.Basic

/-!
The identities that a certificate claims.

A certificate names its holder by the common names of its subject and by its alternative names.
Only the first common name takes part in a match; alternative names all do, in their order.  The
entries are loosely typed because callers may build a set from what they have, so an entry that
is no text is carried along and shown, but it can never be matched.
-/

namespace PeerTrust

/-- The names claimed by a certificate, common names from the most specific to the broadest. -/
structure IdentitySet where
  commonNames : List Value
  altNames : List Value

namespace IdentitySet

/-- No names at all. -/
def empty : IdentitySet := ⟨[], []⟩

/-- The entries that a value gives: nothing when it is vacuous, and its elements otherwise. -/
def entries (v : Value) : Except Value.NotIterable (List Value) :=
  if v.vacuous then .ok [] else v.elements

/-- The set with the entries that two values give. -/
def ofValues (commonNames altNames : Value) : Except Value.NotIterable IdentitySet := do
  return ⟨← entries commonNames, ← entries altNames⟩

/-- The set of these texts. -/
def ofTexts (commonNames altNames : List Text) : IdentitySet :=
  ⟨commonNames.map .text, altNames.map .text⟩

/-- The common name that takes part in a match. -/
def firstCommonName? (ids : IdentitySet) : Option Value := ids.commonNames.head?

/-- There are neither common names nor alternative names. -/
def isEmpty (ids : IdentitySet) : Bool := ids.commonNames.isEmpty && ids.altNames.isEmpty

/-- The names to compare a host with, in order: the first common name and then the alternative
names, vacuous entries left out. -/
def candidates (ids : IdentitySet) : List Value :=
  (ids.commonNames.take 1 ++ ids.altNames).filter (!·.vacuous)

end IdentitySet

end PeerTrust
