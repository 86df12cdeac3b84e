import PeerTrust.Report

/-!
Lists of names and the handshake limits that are made of them.

A list of protocol or cipher names is written as a text with commas or as a sequence.  Both are
reduced to the same form: names are trimmed, blank ones are dropped, order and repetitions are
kept.  A list without names is no list at all, and then the defaults of the engine stay in force.
A name with a comma can only come from a sequence and is kept whole.
-/

namespace PeerTrust

/-- A list of names, or nothing where the defaults of an engine are wanted. -/
abbrev NameList := Option (List Text)

namespace NameList

/-- The name in an entry of a list, unless the entry is missing or blank. -/
def nameOf? : Value → Option Text
  | .null => none
  | v => if v.display.trim.isEmpty then none else some v.display.trim

/-- The list of the names in these entries; nothing when there is none. -/
def ofEntries (entries : List Value) : NameList :=
  match entries.filterMap nameOf? with
  | [] => none
  | names => some names

/-- The list of names that a value gives. -/
def ofValue : Value → Except Value.NotIterable NameList
  | .null => .ok none
  | .text s => .ok (ofEntries ((s.splitOn ',').map .text))
  | v => v.elements.map ofEntries

/-- The list if it asks for anything: one without names is as good as none. -/
def asked : NameList → NameList
  | some [] => none
  | list => list

/-- The list as it is read once more from the names that it holds. -/
def reread (list : NameList) : NameList := list.bind fun names => ofEntries (names.map .text)

end NameList

/-- The limits that are set before a handshake. -/
structure HandshakeConfig where
  protocols : NameList := none
  ciphers : NameList := none
deriving DecidableEq

/-- The limits that two values give. -/
def HandshakeConfig.ofValues (protocols ciphers : Value) :
    Except Value.NotIterable HandshakeConfig := do
  return ⟨← NameList.ofValue protocols, ← NameList.ofValue ciphers⟩

end PeerTrust
