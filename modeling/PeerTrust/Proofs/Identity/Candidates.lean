import Mathlib.Logic.Relation
import PeerTrust.Proofs.Identity.Matching

/-!
The candidates of a match, each by itself.

A set is searched from one candidate to the next and the search stops at the first match.  That is
a way to find out whether there is one, and nothing more: the verdict on a set is the disjunction
of the verdicts on sets of a single name (`matchesHost_disjunction`).  No candidate can spoil it
for another one, and an entry that is no text, or an empty one, is as good as absent.

So what a verdict depends on is known.  It is the first common name, where an empty one does not
make room for the next, and which texts are among the alternative names (`Within`).  Everything
else about a set may change (`ImmaterialChange`).
-/

namespace PeerTrust.IdentitySet

variable {ids ids' : IdentitySet} {strict : Bool} {host name : Text} {entry : Value}

/-! ## One candidate -/

theorem mem_candidates_iff :
    entry ∈ ids.candidates ↔
      (ids.firstCommonName? = some entry ∨ entry ∈ ids.altNames) ∧ entry.vacuous = false := by
  unfold candidates firstCommonName?
  rw [List.mem_filter, List.mem_append, Bool.not_eq_true']
  cases ids.commonNames with
  | nil => simp
  | cons first rest => simp [@eq_comm _ first]

theorem text_mem_candidates_iff :
    .text name ∈ ids.candidates ↔
      (ids.firstCommonName? = some (.text name) ∨ .text name ∈ ids.altNames) ∧ name ≠ [] := by
  rw [mem_candidates_iff, Value.vacuous, List.isEmpty_eq_false_iff]

/-- A set of one entry, wherever it stands, matches by that entry or not at all. -/
theorem matchesHost_of_candidates_iff (entry : Value)
    (h : ids.candidates = [entry].filter (!·.vacuous)) :
    ids.matchesHost strict host = true ↔
      host ≠ [] ∧ ∃ name, entry = .text name ∧ name ≠ [] ∧
        nameMatches strict (Host.normalize host) name.fold = true := by
  rw [matchesHost_eq_true_iff, h]
  simp only [List.mem_filter, List.mem_singleton, Bool.not_eq_true', and_assoc]
  refine and_congr_right fun _ => exists_congr fun name => ?_
  rw [Value.vacuous, List.isEmpty_eq_false_iff, eq_comm]

/-- The verdict on a set is that on one of its entries. -/
theorem matchesHost_iff_exists_entry :
    ids.matchesHost strict host = true ↔
      (∃ common, ids.firstCommonName? = some common ∧
        matchesHost ⟨[common], []⟩ strict host = true) ∨
      ∃ alt ∈ ids.altNames, matchesHost ⟨[], [alt]⟩ strict host = true := by
  have hcommon : ∀ common, matchesHost ⟨[common], []⟩ strict host = true ↔ _ := fun common =>
    matchesHost_of_candidates_iff common rfl
  have halt : ∀ alt, matchesHost ⟨[], [alt]⟩ strict host = true ↔ _ := fun alt =>
    matchesHost_of_candidates_iff alt rfl
  simp only [hcommon, halt, matchesHost_eq_true_iff, text_mem_candidates_iff]
  constructor
  · rintro ⟨hhost, name, ⟨hfirst | hmem, hne⟩, hname⟩
    · exact .inl ⟨_, hfirst, hhost, name, rfl, hne, hname⟩
    · exact .inr ⟨_, hmem, hhost, name, rfl, hne, hname⟩
  · rintro (⟨_, hfirst, hhost, name, rfl, hne, hname⟩ | ⟨_, hmem, hhost, name, rfl, hne, hname⟩)
    · exact ⟨hhost, name, ⟨.inl hfirst, hne⟩, hname⟩
    · exact ⟨hhost, name, ⟨.inr hmem, hne⟩, hname⟩

/-! ## What a verdict depends on -/

/-- What can match of the first set is in the second one, too. -/
structure Within (ids ids' : IdentitySet) : Prop where
  firstCommonName_eq : ids.firstCommonName? = ids'.firstCommonName?
  text_mem : ∀ name, name ≠ [] → .text name ∈ ids.altNames → .text name ∈ ids'.altNames

theorem Within.matchesHost (h : ids.Within ids') (hmatches : ids.matchesHost strict host = true) :
    ids'.matchesHost strict host = true := by
  obtain ⟨hhost, name, hmem, hname⟩ := matchesHost_eq_true_iff.1 hmatches
  obtain ⟨hclaimed, hne⟩ := text_mem_candidates_iff.1 hmem
  rw [h.firstCommonName_eq] at hclaimed
  exact matchesHost_eq_true_iff.2 ⟨hhost, name,
    text_mem_candidates_iff.2 ⟨hclaimed.imp_right (h.text_mem name hne), hne⟩, hname⟩

/-- A change to a set that no verdict depends on. -/
inductive ImmaterialChange : IdentitySet → IdentitySet → Prop where
  /-- The alternative names come in another order. -/
  | permute (commons : List Value) {alts alts' : List Value} (h : alts.Perm alts') :
      ImmaterialChange ⟨commons, alts⟩ ⟨commons, alts'⟩
  /-- An alternative name is written twice. -/
  | duplicate (commons : List Value) {alts : List Value} {alt : Value} (h : alt ∈ alts) :
      ImmaterialChange ⟨commons, alts⟩ ⟨commons, alt :: alts⟩
  /-- Something that is no text, or an empty one, comes between the alternative names. -/
  | insert (commons front back : List Value) {entry : Value}
      (h : entry.text? = none ∨ entry.text? = some []) :
      ImmaterialChange ⟨commons, front ++ back⟩ ⟨commons, front ++ entry :: back⟩
  /-- Other common names follow the first one, more or fewer of them. -/
  | laterCommonNames (first : Value) (later later' alts : List Value) :
      ImmaterialChange ⟨first :: later, alts⟩ ⟨first :: later', alts⟩

theorem ImmaterialChange.within (h : ImmaterialChange ids ids') :
    ids.Within ids' ∧ ids'.Within ids := by
  cases h with
  | permute commons h => exact ⟨⟨rfl, fun _ _ => h.mem_iff.1⟩, ⟨rfl, fun _ _ => h.mem_iff.2⟩⟩
  | duplicate commons h =>
    refine ⟨⟨rfl, fun _ _ => List.mem_cons_of_mem _⟩, ⟨rfl, fun name _ hmem => ?_⟩⟩
    rcases List.mem_cons.1 hmem with rfl | hmem
    · exact h
    · exact hmem
  | insert commons front back h =>
    refine ⟨⟨rfl, fun name _ hmem => ?_⟩, ⟨rfl, fun name hne hmem => ?_⟩⟩
    · simp only [List.mem_append, List.mem_cons] at hmem ⊢
      exact hmem.imp_right .inr
    · simp only [List.mem_append, List.mem_cons] at hmem ⊢
      rcases hmem with hfront | rfl | hback
      · exact .inl hfront
      · -- The entry that came in would be a text with something in it.
        rcases h with hnone | hempty
        · cases hnone
        · exact absurd (Option.some.inj hempty) hne
      · exact .inr hback
  | laterCommonNames first later later' alts =>
    exact ⟨⟨rfl, fun _ _ => id⟩, ⟨rfl, fun _ _ => id⟩⟩

theorem ImmaterialChange.matchesHost_eq (h : ImmaterialChange ids ids') (strict : Bool)
    (host : Text) : ids.matchesHost strict host = ids'.matchesHost strict host :=
  Bool.eq_iff_iff.2 ⟨h.within.1.matchesHost, h.within.2.matchesHost⟩

/-- **A disjunction over the candidates.**  A set matches a host exactly when a set does that has
only its first common name, provided that this is not empty, or only one of its alternative names.
So the verdict stays the same through any number of immaterial changes, forwards and backwards, and
more alternative names can only turn a refusal into a match. -/
theorem matchesHost_disjunction (ids : IdentitySet) (strict : Bool) (host : Text) :
    (ids.matchesHost strict host = true ↔
      (∃ common, ids.firstCommonName? = some common ∧ common.vacuous = false ∧
        matchesHost ⟨[common], []⟩ strict host = true) ∨
      ∃ alt ∈ ids.altNames, matchesHost ⟨[], [alt]⟩ strict host = true) ∧
    (∀ ids', Relation.EqvGen ImmaterialChange ids ids' →
      ids'.matchesHost strict host = ids.matchesHost strict host) ∧
    ∀ alts, ids.altNames ⊆ alts → ids.matchesHost strict host = true →
      matchesHost ⟨ids.commonNames, alts⟩ strict host = true := by
  refine ⟨?_, ?_, ?_⟩
  · rw [matchesHost_iff_exists_entry]
    refine or_congr_left (exists_congr fun common => and_congr_right fun _ => ?_)
    refine ⟨fun h => ⟨?_, h⟩, And.right⟩
    -- An empty name would not have been a candidate.
    obtain ⟨-, name, rfl, hne, -⟩ := (matchesHost_of_candidates_iff common rfl).1 h
    rwa [Value.vacuous, List.isEmpty_eq_false_iff]
  · intro ids' hchanges
    induction hchanges with
    | rel _ _ h => exact (h.matchesHost_eq strict host).symm
    | refl _ => rfl
    | symm _ _ _ ih => exact ih.symm
    | trans _ _ _ _ _ first second => exact second.trans first
  · intro alts hsubset hmatches
    have hwithin : ids.Within ⟨ids.commonNames, alts⟩ := ⟨rfl, fun _ _ hmem => hsubset hmem⟩
    exact hwithin.matchesHost hmatches

/-- Names as a certificate may give them: an empty common name in front of a fitting one. -/
def givenNames : IdentitySet :=
  ofTexts ["".toList, "www.example.org".toList] ["mail.example.org".toList, "*.Example.ORG".toList]

/-- The same names loosely kept: other common names behind the first one, the alternative names in
another order, and something that is no text between them. -/
def looseNames : IdentitySet :=
  ⟨[.text "".toList], [.text "*.Example.ORG".toList, .null, .text "mail.example.org".toList]⟩

/-- The wildcard alone makes the match, before all the changes and after them. -/
theorem matchesHost_looseNames :
    Relation.EqvGen ImmaterialChange givenNames looseNames ∧
    looseNames.matchesHost true "www.example.org".toList = true ∧
    matchesHost ⟨looseNames.commonNames, .bool true :: looseNames.altNames⟩ true
      "www.example.org".toList = true := by
  have hlater : ImmaterialChange givenNames ⟨[.text "".toList], givenNames.altNames⟩ :=
    .laterCommonNames _ _ [] _
  have hswap : ImmaterialChange ⟨[.text "".toList], givenNames.altNames⟩
      ⟨[.text "".toList], [.text "*.Example.ORG".toList, .text "mail.example.org".toList]⟩ :=
    .permute _ (.swap _ _ [])
  have hinsert : ImmaterialChange
      ⟨[.text "".toList], [.text "*.Example.ORG".toList, .text "mail.example.org".toList]⟩
      looseNames :=
    .insert _ [.text "*.Example.ORG".toList] [.text "mail.example.org".toList] (.inl rfl)
  have hchanges : Relation.EqvGen ImmaterialChange givenNames looseNames :=
    .trans _ _ _ (.rel _ _ hlater) (.trans _ _ _ (.rel _ _ hswap) (.rel _ _ hinsert))
  have hgiven : givenNames.matchesHost true "www.example.org".toList = true :=
    (matchesHost_disjunction _ _ _).1.2
      (.inr ⟨.text "*.Example.ORG".toList, by simp [givenNames, ofTexts], by decide +kernel⟩)
  have hloose : looseNames.matchesHost true "www.example.org".toList = true := by
    rw [(matchesHost_disjunction givenNames _ _).2.1 _ hchanges, hgiven]
  exact ⟨hchanges, hloose,
    (matchesHost_disjunction looseNames _ _).2.2 _ (List.subset_cons_self _ _) hloose⟩

end PeerTrust.IdentitySet
