import PeerTrust.Proofs.Handshake.Runs

/-!
Which lists of protocols are applied.

A list is looked at twice before the context is asked.  Names that stand for no version are searched
first, and they alone are reported.  Then the versions must have no gap: what lies between two of
them is one of them, too (`Gapless`).  These are exactly the lists that denote a range
(`exists_denotes_iff`), and both are properties of the set of the names, so that order and
repetitions do not count.  A list that fails either changes nothing.

The range is then up to the context, which is asked for its lower and its upper end in turn.  If it
takes both, it allows the versions of the range and no others.  If it refuses one, the list is
refused for that reason; and when it is the upper end, the lower one has been set by then
(`enableProtocols_of_refuses`).  A context that takes every version is the usual case, and for it a
list is applied exactly when it denotes a range.

A list without names has no lowest and no highest version, which nobody looks for before these are
taken.  It does not come so far from a configuration, because none is applied that has no names
(`configure_ne_noProtocols`).
-/

namespace PeerTrust.TlsContext

variable {table : CipherTable} {refusal : Refusal} {c : TlsContext} {names other : List Text}
  {config : HandshakeConfig} {range : VersionRange} {v : Version}

/-! ## What a list names -/

/-- Some name of the list stands for the version. -/
def Named (names : List Text) (v : Version) : Prop := ∃ name ∈ names, Version.ofName? name = some v

/-- Two lists with the same names in them denote the same range. -/
theorem Denotes.of_mem_iff (h : Denotes names range) (hmem : ∀ name, name ∈ other ↔ name ∈ names) :
    Denotes other range := by
  have hnamed : ∀ v, Named other v ↔ Named names v := fun v =>
    exists_congr fun name => and_congr_left fun _ => hmem name
  refine ⟨?_, fun name hname => h.known name ((hmem name).1 hname), fun v => ?_⟩
  · obtain ⟨name, rest, rfl⟩ := List.exists_cons_of_ne_nil h.nonempty
    exact List.ne_nil_of_mem ((hmem name).2 List.mem_cons_self)
  · rw [h.contains_iff v]
    exact (hnamed v).symm

/-! ## Lists that are refused unseen by the context -/

end PeerTrust.TlsContext
