import Mathlib.Data.List.Sort
import Mathlib.Logic.Function.Basic
import PeerTrust.Handshake.Context

/-!
The range of versions that a list of names stands for, and what setting it does.

A context holds a lowest and a highest version, so all that a list of protocols can ask for is a
range.  `Denotes` says when a list asks for a range without any search: it names nothing unknown,
and a version lies in the range exactly when some name of the list stands for it.  So order and
repetitions are of no consequence, and a list with a gap denotes no range at all.

The list is searched by sorting it.  Sorted and without repetitions, the places of its versions are
those of a range exactly when no version of the range is missing
(`VersionRange.map_rank_eq_ranks_iff`).  So a list is accepted exactly when it denotes a range, and
that range is the one that is set (`versionRange_eq_ok_iff`).

Setting it takes two steps, and the context may refuse either (`Refuses`).  It is set when both are
taken (`Takes`).
-/

namespace PeerTrust

/-! ## Versions in ascending order -/

namespace Version

variable {v w : Version} {vs : List Version}

theorem rank_injective : Function.Injective rank := by
  intro v w h
  cases v <;> cases w <;> first | rfl | cases h

/-- The versions are in ascending order, each once. -/
abbrev Ascending (vs : List Version) : Prop := vs.Pairwise fun v w => v.rank < w.rank

theorem mem_insert : w ∈ insert v vs ↔ w = v ∨ w ∈ vs := by
  induction vs with
  | nil => rw [insert, List.mem_singleton, or_iff_left List.not_mem_nil]
  | cons u us ih =>
    rw [insert]
    split
    · rw [List.mem_cons]
    · split
      · next heq =>
        rw [heq, List.mem_cons, or_self_left]
      · rw [List.mem_cons, ih, List.mem_cons, or_left_comm]

theorem Ascending.insert (h : Ascending vs) : Ascending (v.insert vs) := by
  induction vs with
  | nil => exact List.pairwise_singleton _ v
  | cons u us ih =>
    obtain ⟨hfirst, hrest⟩ := List.pairwise_cons.1 h
    rw [Version.insert]
    split
    · next hbefore =>
      refine List.pairwise_cons.2 ⟨fun w hw => ?_, h⟩
      rcases List.mem_cons.1 hw with rfl | hw
      · exact hbefore
      · exact Nat.lt_trans hbefore (hfirst w hw)
    · next hbefore =>
      split
      · exact h
      · next hne =>
        refine List.pairwise_cons.2 ⟨fun w hw => ?_, ih hrest⟩
        rcases mem_insert.1 hw with rfl | hw
        · have hplace : w.rank ≠ u.rank := fun heq => hne (rank_injective heq)
          omega
        · exact hfirst w hw

theorem mem_ascending : v ∈ ascending vs ↔ v ∈ vs := by
  unfold ascending
  induction vs with
  | nil => rfl
  | cons w ws ih => rw [List.foldr_cons, mem_insert, ih, List.mem_cons]

theorem ascending_ascending (vs : List Version) : Ascending (ascending vs) := by
  unfold ascending
  induction vs with
  | nil => exact .nil
  | cons w ws ih => exact ih.insert

end Version

namespace VersionRange

/-- The ends of the range are among the versions, and all of them lie in it. -/
structure Spans (range : VersionRange) (vs : List Version) : Prop where
  lowest_mem : range.lowest ∈ vs
  highest_mem : range.highest ∈ vs
  contains : ∀ v ∈ vs, range.contains v = true

variable {range other : VersionRange} {vs ws : List Version} {first v : Version}

theorem contains_iff :
    range.contains v = true ↔ range.lowest.rank ≤ v.rank ∧ v.rank ≤ range.highest.rank := by
  unfold VersionRange.contains
  rw [Bool.and_eq_true, decide_eq_true_eq, decide_eq_true_eq]

theorem Spans.unique (h : range.Spans vs) (h' : other.Spans vs) : range = other := by
  have hlow := contains_iff.1 (h.contains _ h'.lowest_mem)
  have hlow' := contains_iff.1 (h'.contains _ h.lowest_mem)
  have hhigh := contains_iff.1 (h.contains _ h'.highest_mem)
  have hhigh' := contains_iff.1 (h'.contains _ h.highest_mem)
  have hlowest : range.lowest = other.lowest := Version.rank_injective (by omega)
  have hhighest : range.highest = other.highest := Version.rank_injective (by omega)
  cases range
  cases other
  simp_all only

theorem Spans.of_mem_iff (h : range.Spans vs) (hmem : ∀ v, v ∈ ws ↔ v ∈ vs) : range.Spans ws :=
  ⟨(hmem _).2 h.lowest_mem, (hmem _).2 h.highest_mem, fun v hv => h.contains v ((hmem v).1 hv)⟩

/-- The first and the last of some versions in ascending order are the ends of their range. -/
theorem spans_of_ascending (h : Version.Ascending (first :: vs)) :
    Spans ⟨first, vs.getLastD first⟩ (first :: vs) := by
  induction vs generalizing first with
  | nil =>
    refine ⟨List.mem_cons_self, List.mem_cons_self, fun v hv => ?_⟩
    rw [List.mem_singleton.1 hv, contains_iff]
    exact ⟨Nat.le_refl _, Nat.le_refl _⟩
  | cons second vs ih =>
    obtain ⟨hfirst, hrest⟩ := List.pairwise_cons.1 h
    have hspans := ih hrest
    have hhighest : second.rank ≤ (vs.getLastD second).rank :=
      (contains_iff.1 (hspans.contains second List.mem_cons_self)).2
    rw [List.getLastD_cons]
    refine ⟨List.mem_cons_self, List.mem_cons_of_mem _ hspans.highest_mem, fun v hv => ?_⟩
    rw [contains_iff]
    rcases List.mem_cons.1 hv with rfl | hv
    · exact ⟨Nat.le_refl _,
        Nat.le_trans (Nat.le_of_lt (hfirst second List.mem_cons_self)) hhighest⟩
    · exact ⟨Nat.le_of_lt (hfirst v hv), (contains_iff.1 (hspans.contains v hv)).2⟩

theorem rank_mem_ranks_iff : v.rank ∈ range.ranks ↔ range.contains v = true := by
  unfold ranks
  rw [List.mem_range'_1, contains_iff]
  omega

/-- Whatever is at a place between the ends is a version. -/
theorem exists_of_mem_ranks {place : Nat} (h : place ∈ range.ranks) :
    ∃ v : Version, v.rank = place := by
  have hlast : range.highest.rank ≤ 4 := by cases range.highest <;> decide
  unfold ranks at h
  rw [List.mem_range'_1] at h
  have hall : ∀ place < 5, ∃ v ∈ Version.all, v.rank = place := by decide
  obtain ⟨v, -, hv⟩ := hall place (by omega)
  exact ⟨v, hv⟩

/-- Some versions in ascending order are at the places of the range that they span exactly when they
are all the versions in it. -/
theorem map_rank_eq_ranks_iff (h : Version.Ascending vs) (hspans : range.Spans vs) :
    vs.map Version.rank = range.ranks ↔ ∀ v, range.contains v = true → v ∈ vs := by
  have hmem : ∀ v, v.rank ∈ vs.map Version.rank ↔ v ∈ vs := fun v =>
    List.mem_map_of_injective Version.rank_injective
  constructor
  · intro hplaces v hv
    rwa [← hmem, hplaces, rank_mem_ranks_iff]
  · intro hall
    have hascending : (vs.map Version.rank).Pairwise (· < ·) := List.pairwise_map.2 h
    refine hascending.eq_of_mem_iff (List.pairwise_lt_range' _) fun place => ⟨fun hplace => ?_,
      fun hplace => ?_⟩
    · obtain ⟨v, hv, rfl⟩ := List.mem_map.1 hplace
      exact rank_mem_ranks_iff.2 (hspans.contains v hv)
    · obtain ⟨v, rfl⟩ := exists_of_mem_ranks hplace
      exact (hmem v).2 (hall v (rank_mem_ranks_iff.1 hplace))

end VersionRange

/-- A context that refuses like this takes every version for either bound. -/
def Refusal.Accepts (refusal : Refusal) : Prop :=
  ∀ bounds bound v, refusal.reason? bounds bound v = none

/-! ## Lists of names -/

namespace TlsContext

/-- The list asks for the range: every name is known, and the versions that the names stand for
are those in the range. -/
structure Denotes (names : List Text) (range : VersionRange) : Prop where
  nonempty : names ≠ []
  known : ∀ name ∈ names, ∃ v, Version.ofName? name = some v
  contains_iff : ∀ v, range.contains v = true ↔ ∃ name ∈ names, Version.ofName? name = some v

variable {names : List Text} {range other : VersionRange}

/-- A range that is denoted is not turned round. -/
theorem Denotes.lowest_le_highest (h : Denotes names range) :
    range.lowest.rank ≤ range.highest.rank := by
  obtain ⟨name, rest, rfl⟩ := List.exists_cons_of_ne_nil h.nonempty
  obtain ⟨v, hv⟩ := h.known name List.mem_cons_self
  have hcontains := (h.contains_iff v).2 ⟨name, List.mem_cons_self, hv⟩
  rw [VersionRange.contains_iff] at hcontains
  omega

theorem Denotes.spans (h : Denotes names range) :
    range.Spans (names.filterMap Version.ofName?) := by
  have hle : range.lowest.rank ≤ range.highest.rank := h.lowest_le_highest
  refine ⟨List.mem_filterMap.2 ((h.contains_iff _).1 ?_),
    List.mem_filterMap.2 ((h.contains_iff _).1 ?_), fun v hv => ?_⟩
  · exact VersionRange.contains_iff.2 ⟨Nat.le_refl _, hle⟩
  · exact VersionRange.contains_iff.2 ⟨hle, Nat.le_refl _⟩
  · exact (h.contains_iff v).2 (List.mem_filterMap.1 hv)

theorem Denotes.unique (h : Denotes names range) (h' : Denotes names other) : range = other :=
  h.spans.unique h'.spans

/-- The list is searched for unknown names before anything else is asked of it. -/
theorem filter_isNone_eq_nil_iff :
    (names.filter fun name => (Version.ofName? name).isNone) = [] ↔
      ∀ name ∈ names, ∃ v, Version.ofName? name = some v := by
  rw [List.filter_eq_nil_iff]
  refine forall₂_congr fun name _ => ?_
  rw [Bool.not_eq_true, Option.isNone_eq_false_iff, Option.isSome_iff_exists]

/-- The versions that the names of a list stand for, in ascending order, span a range. -/
theorem exists_spans_of_known (hne : names ≠ [])
    (hknown : ∀ name ∈ names, ∃ v, Version.ofName? name = some v) :
    ∃ first rest, Version.ascending (names.filterMap Version.ofName?) = first :: rest ∧
      VersionRange.Spans ⟨first, rest.getLastD first⟩ (names.filterMap Version.ofName?) := by
  obtain ⟨name, more, rfl⟩ := List.exists_cons_of_ne_nil hne
  obtain ⟨v, hv⟩ := hknown name List.mem_cons_self
  have hmem : v ∈ Version.ascending ((name :: more).filterMap Version.ofName?) := by
    rw [Version.mem_ascending, List.filterMap_cons_some hv]
    exact List.mem_cons_self
  obtain ⟨first, rest, hsorted⟩ := List.exists_cons_of_ne_nil (List.ne_nil_of_mem hmem)
  have hascending := Version.ascending_ascending ((name :: more).filterMap Version.ofName?)
  rw [hsorted] at hascending
  refine ⟨first, rest, hsorted, (VersionRange.spans_of_ascending hascending).of_mem_iff fun w => ?_⟩
  rw [← hsorted, Version.mem_ascending]

/-- The search for a gap looks for versions that no name stands for: there is none between the ends
of a list of known names exactly when the list denotes the range that it spans. -/
theorem denotes_iff_map_rank_eq (hne : names ≠ [])
    (hknown : ∀ name ∈ names, ∃ v, Version.ofName? name = some v)
    (hspans : range.Spans (names.filterMap Version.ofName?)) :
    Denotes names range ↔
      (Version.ascending (names.filterMap Version.ofName?)).map Version.rank = range.ranks := by
  have hascending := Version.ascending_ascending (names.filterMap Version.ofName?)
  rw [VersionRange.map_rank_eq_ranks_iff hascending
    (hspans.of_mem_iff fun v => Version.mem_ascending)]
  simp only [Version.mem_ascending, List.mem_filterMap]
  constructor
  · exact fun h v hv => (h.contains_iff v).1 hv
  · intro hall
    refine ⟨hne, hknown, fun v => ⟨hall v, fun hv => ?_⟩⟩
    exact hspans.contains v (List.mem_filterMap.2 hv)

/-- For a list of known names everything is up to the range that they span: it is denoted, or the
list has a gap. -/
theorem exists_versionRange_eq (hne : names ≠ [])
    (hknown : ∀ name ∈ names, ∃ v, Version.ofName? name = some v) :
    ∃ range : VersionRange, range.Spans (names.filterMap Version.ofName?) ∧
      (Denotes names range ∧ versionRange names = .ok range ∨
        ¬ Denotes names range ∧ versionRange names = .error (.unsupported .protocols names
          "protocol versions must form a contiguous range".toList)) := by
  obtain ⟨first, rest, hsorted, hspans⟩ := exists_spans_of_known hne hknown
  refine ⟨⟨first, rest.getLastD first⟩, hspans, ?_⟩
  rw [denotes_iff_map_rank_eq hne hknown hspans, hsorted]
  unfold versionRange
  rw [filter_isNone_eq_nil_iff.2 hknown]
  dsimp only
  rw [hsorted]
  by_cases hplaces :
      (first :: rest).map Version.rank = VersionRange.ranks ⟨first, rest.getLastD first⟩
  · exact .inl ⟨hplaces, if_pos hplaces⟩
  · exact .inr ⟨hplaces, if_neg hplaces⟩

/-- A range comes only of known names. -/
theorem known_of_versionRange_eq_ok (h : versionRange names = .ok range) :
    ∀ name ∈ names, ∃ v, Version.ofName? name = some v := by
  unfold versionRange at h
  split at h
  · cases h
  · next hknown => exact filter_isNone_eq_nil_iff.1 hknown

/-- A range is set exactly when it is the one that the list denotes. -/
theorem versionRange_eq_ok_iff : versionRange names = .ok range ↔ Denotes names range := by
  constructor
  · intro h
    have hne : names ≠ [] := by
      rintro rfl
      cases h
    obtain ⟨spanned, -, ⟨hdenotes, hset⟩ | ⟨-, hgap⟩⟩ :=
      exists_versionRange_eq hne (known_of_versionRange_eq_ok h)
    · rw [hset] at h
      cases h
      exact hdenotes
    · rw [hgap] at h
      cases h
  · intro h
    obtain ⟨spanned, hspans, hcases⟩ := exists_versionRange_eq h.nonempty h.known
    obtain rfl := h.spans.unique hspans
    rcases hcases with ⟨-, hset⟩ | ⟨hnot, -⟩
    · exact hset
    · exact absurd h hnot

/-! ## Setting a range -/

/-- The context takes both ends of the range, one after the other. -/
structure Takes (refusal : Refusal) (bounds : VersionBounds) (range : VersionRange) : Prop where
  lowest : refusal.reason? bounds .lowest range.lowest = none
  highest : refusal.reason? (bounds.set .lowest range.lowest) .highest range.highest = none

/-- The context refuses an end of the range, for this reason, and is left with these bounds: the
lowest is set already when the highest is refused. -/
inductive Refuses (refusal : Refusal) (bounds : VersionBounds) (range : VersionRange) :
    Text → VersionBounds → Prop where
  | lowest {reason : Text} (refused : refusal.reason? bounds .lowest range.lowest = some reason) :
      Refuses refusal bounds range reason bounds
  | highest {reason : Text} (taken : refusal.reason? bounds .lowest range.lowest = none)
      (refused : refusal.reason? (bounds.set .lowest range.lowest) .highest range.highest =
        some reason) :
      Refuses refusal bounds range reason (bounds.set .lowest range.lowest)

variable {refusal : Refusal} {bounds next : VersionBounds} {c : TlsContext} {reason : Text}

theorem takes_of_accepts (h : refusal.Accepts) : Takes refusal bounds range := ⟨h .., h ..⟩

/-- A range is taken, or there is a reason why it is not. -/
theorem takes_or_refuses (refusal : Refusal) (bounds : VersionBounds) (range : VersionRange) :
    Takes refusal bounds range ∨ ∃ reason next, Refuses refusal bounds range reason next := by
  cases hlow : refusal.reason? bounds .lowest range.lowest with
  | some reason => exact .inr ⟨reason, _, .lowest hlow⟩
  | none =>
    cases hhigh : refusal.reason? (bounds.set .lowest range.lowest) .highest range.highest with
    | some reason => exact .inr ⟨reason, _, .highest hlow hhigh⟩
    | none => exact .inl ⟨hlow, hhigh⟩

theorem run_setBound (refusal : Refusal) (bound : Bound) (v : Version) (c : TlsContext) :
    (setBound refusal bound v).run.run c =
      match refusal.reason? c.versions bound v with
      | some reason => (.error reason, c)
      | none => (.ok (), { c with versions := c.versions.set bound v }) := by
  unfold setBound
  rw [ExceptT.run_bind, StateT.run_bind]
  -- What is read first is the context itself.
  change StateT.run (ExceptT.run (match refusal.reason? c.versions bound v with
    | some reason => throw reason
    | none => set { c with versions := c.versions.set bound v } : ExceptT Text ContextM Unit)) c = _
  cases refusal.reason? c.versions bound v <;> rfl

theorem setRange_of_takes (h : Takes refusal c.versions range) :
    (setRange refusal range).run.run c = (.ok (), { c with versions := range.bounds }) := by
  unfold setRange
  rw [ExceptT.run_bind, StateT.run_bind, run_setBound, h.lowest]
  exact (run_setBound ..).trans (by rw [h.highest]; rfl)

theorem setRange_of_refuses (h : Refuses refusal c.versions range reason next) :
    (setRange refusal range).run.run c = (.error reason, { c with versions := next }) := by
  unfold setRange
  rw [ExceptT.run_bind, StateT.run_bind, run_setBound]
  cases h with
  | lowest refused =>
    rw [refused]
    rfl
  | highest taken refused =>
    rw [taken]
    exact (run_setBound ..).trans (by rw [refused])

/-! ## Setting the protocols -/

theorem enableProtocols_of_error {fault : EngineFault} (h : versionRange names = .error fault) :
    enableProtocols refusal names c = (.error fault, c) := by
  unfold enableProtocols
  rw [h]
  rfl

theorem enableProtocols_of_denotes (h : Denotes names range) :
    enableProtocols refusal names c =
      let (answer, next) := (setRange refusal range).run.run c
      (answer.mapError (.unsupported .protocols names), next) := by
  unfold enableProtocols
  rw [versionRange_eq_ok_iff.2 h]
  rfl

theorem enableProtocols_of_takes (h : Denotes names range)
    (htakes : Takes refusal c.versions range) :
    enableProtocols refusal names c = (.ok (), { c with versions := range.bounds }) := by
  rw [enableProtocols_of_denotes h, setRange_of_takes htakes]
  rfl

theorem enableProtocols_of_refuses (h : Denotes names range)
    (hrefuses : Refuses refusal c.versions range reason next) :
    enableProtocols refusal names c =
      (.error (.unsupported .protocols names reason), { c with versions := next }) := by
  rw [enableProtocols_of_denotes h, setRange_of_refuses hrefuses]
  rfl

/-- Setting protocols succeeds exactly for a list that denotes a range which the context takes. -/
theorem enableProtocols_eq_ok_iff :
    (enableProtocols refusal names c).1 = .ok () ↔
      ∃ range, Denotes names range ∧ Takes refusal c.versions range := by
  constructor
  · intro h
    cases hrange : versionRange names with
    | error fault =>
      rw [enableProtocols_of_error hrange] at h
      cases h
    | ok range =>
      have hdenotes := versionRange_eq_ok_iff.1 hrange
      refine ⟨range, hdenotes, ?_⟩
      rcases takes_or_refuses refusal c.versions range with htakes | ⟨reason, next, hrefuses⟩
      · exact htakes
      · rw [enableProtocols_of_refuses hdenotes hrefuses] at h
        cases h
  · rintro ⟨range, hdenotes, htakes⟩
    rw [enableProtocols_of_takes hdenotes htakes]

end TlsContext

end PeerTrust
