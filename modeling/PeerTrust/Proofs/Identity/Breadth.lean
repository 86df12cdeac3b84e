import PeerTrust.Proofs.Identity.Matching

/-!
How much a wildcard has to name.

A wildcard like `*.com` or `*.co.uk` would speak for everybody under a registry, and such names are
refused.  The refusal counts what stands between full stops, whether it is a label or nothing at
all.  So it is got round by writing the same domain with an empty label: in `*.com.` the root of
the name tree follows as a second label, and in `*.co.uk.` as a third
(`matchesHost_rootDot`).

What a wildcard names are the labels behind the asterisk that are not empty (`NamesDomain`).  By
that measure the refusal is right as long as no label is empty, be it of the identity or of the
host, because the host repeats the labels behind the asterisk.  And it is known what escapes it:
of the wildcards that name too little, those with an empty label among two or more
(`matchesHost_wildcard_breadth`).
-/

namespace PeerTrust

namespace Wildcard

variable {strict : Bool} {identity host s : Text} {front ending : List Text}

/-- Labels that are enough of a name for a wildcard: two that are not empty, and not only the
registry of a country. -/
structure NamesDomain (labels : List Text) : Prop where
  two_le_length : 2 ≤ (labels.filter (!·.isEmpty)).length
  not_registry : ∀ registry country, labels.filter (!·.isEmpty) = [registry, country] →
    country.length = 2 → registry ∉ registryLabels

theorem splitOn_wildcard (s : Text) : List.splitOn '.' ('*' :: '.' :: s) = ['*'] :: s.splitOn '.' :=
  List.splitOn_append_cons_self_of_not_mem (by decide : '.' ∉ ['*']) s

/-- Labels hold what their text holds, full stops apart. -/
theorem asterisk_not_mem_iff : (∀ label ∈ s.splitOn '.', '*' ∉ label) ↔ '*' ∉ s := by
  constructor
  · intro h hmem
    rcases Text.mem_splitOn_cases '.' hmem with hdot | ⟨label, hlabel, hmem⟩
    · exact absurd hdot (by decide)
    · exact h label hlabel hmem
  · intro h label hlabel hmem
    refine h ?_
    rw [← @List.intercalate_splitOn _ s _ _ '.']
    exact Text.mem_intercalate_of_mem hlabel hmem

/-- Where no label is empty, a wildcard that covers something names a domain. -/
theorem Covering.namesDomain (h : Covering identity host front ending)
    (hlabels : ∀ label ∈ ending, label ≠ []) : NamesDomain ending := by
  have hfilter : ending.filter (!·.isEmpty) = ending := by
    rw [List.filter_eq_self]
    intro label hlabel
    rw [Bool.not_eq_true', List.isEmpty_eq_false_iff]
    exact hlabels label hlabel
  refine ⟨?_, ?_⟩
  · rw [hfilter]
    exact h.two_le_length
  · intro registry country hending hlength hregistry
    rw [hfilter] at hending
    have hcovers : coversRegistry (['*'] :: ending) = true :=
      coversRegistry_iff.2 ⟨registry, country, hending, hlength, hregistry⟩
    rw [h.no_registry] at hcovers
    cases hcovers

/-- No registry has an empty label, so labels with an empty one among them are taken for none. -/
theorem coversRegistry_of_nil_mem (h : [] ∈ ending) : coversRegistry (['*'] :: ending) = false := by
  rw [← Bool.not_eq_true, coversRegistry_iff]
  rintro ⟨registry, country, rfl, hlength, hregistry⟩
  rw [List.mem_cons, List.mem_singleton] at h
  rcases h with rfl | rfl
  · exact absurd hregistry (by decide)
  · exact absurd hlength (by decide)

/-- With an empty label a wildcard is acceptable however little it names. -/
theorem covers_of_nil_mem (hempty : [] ∈ s.splitOn '.') (htwo : 2 ≤ (s.splitOn '.').length)
    (hasterisk : '*' ∉ s) : covers strict ('*' :: '.' :: s) ('x' :: '.' :: s) = true := by
  have hhost : List.splitOn '.' ('x' :: '.' :: s) = [['x']] ++ s.splitOn '.' :=
    List.splitOn_append_cons_self_of_not_mem (by decide : '.' ∉ ['x']) s
  refine covers_iff.2
    ⟨[['x']], s.splitOn '.', ⟨splitOn_wildcard s, htwo, ?_, ?_, hhost, ?_, ?_⟩, ?_⟩
  · exact asterisk_not_mem_iff.2 hasterisk
  · exact coversRegistry_of_nil_mem hempty
  · exact List.cons_ne_nil _ _
  · exact List.forall_mem_singleton.2 (List.cons_ne_nil _ _)
  · exact fun _ => rfl

end Wildcard

/-! ## Hosts -/

section Hosts

variable {strict : Bool} {host name s : Text} {ids : IdentitySet}

/-- What stands behind the asterisk of a name in comparable form stands in a host that is in normal
form. -/
theorem Host.normalize_of_fold_eq_wildcard (h : name.fold = '*' :: '.' :: s) :
    Host.normalize ('x' :: '.' :: s) = 'x' :: '.' :: s ∧
      Host.isIpLiteral ('x' :: '.' :: s) = false := by
  have hsmall : ∀ c ∈ '*' :: '.' :: s, IsSmall c := by
    rw [← h]
    exact fun c hc => Text.isSmall_of_mem_lower hc
  have htrimmed : Text.IsTrimmed ('*' :: '.' :: s) := h ▸ Text.isTrimmed_fold name
  -- Only the first character differs, and it is small and no blank either.
  have htrimmed' : Text.IsTrimmed ('x' :: '.' :: s) := by
    refine ⟨?_, ?_⟩
    · intro c hc
      rw [← Option.some.inj hc]
      decide
    · have hlast := htrimmed.last_not_blank
      rw [List.getLast?_cons_cons] at hlast ⊢
      exact hlast
  have hsmall' : ∀ c ∈ 'x' :: '.' :: s, IsSmall c :=
    List.forall_mem_cons.2 ⟨by decide +kernel, (List.forall_mem_cons.1 hsmall).2⟩
  have hnone : Host.address? ('x' :: '.' :: s) = none :=
    Host.address?_eq_none_of_head? rfl (by decide) (by decide)
  constructor
  · unfold Host.normalize
    rw [Text.fold_eq_self htrimmed' hsmall', hnone]
  · unfold Host.isIpLiteral
    rw [htrimmed'.trim_eq, hnone]
    rfl

/-- A set whose only name is a wildcard matches the hosts that the wildcard covers. -/
theorem IdentitySet.ClaimsOnly.matchesHost_iff_covers (hids : ids.ClaimsOnly name)
    (hname : name.fold = '*' :: '.' :: s) :
    ids.matchesHost strict host = true ↔
      host ≠ [] ∧ Host.isIpLiteral (Host.normalize host) = false ∧
        Wildcard.covers strict ('*' :: '.' :: s) (Host.normalize host) = true := by
  have hasterisk : '*' ∈ name.fold := by
    rw [hname]
    exact List.mem_cons_self
  have hne : name ≠ [] := by
    rintro rfl
    exact List.not_mem_nil hasterisk
  rw [hids.matchesHost_iff hne, nameMatches_of_asterisk_mem hasterisk, hname]

/-- A wildcard and a host that it matches, label by label. -/
theorem IdentitySet.ClaimsOnly.exists_covering (hids : ids.ClaimsOnly name)
    (hname : name.fold = '*' :: '.' :: s) (h : ids.matchesHost strict host = true) :
    ∃ front, Wildcard.Covering ('*' :: '.' :: s) (Host.normalize host) front (s.splitOn '.') := by
  obtain ⟨-, -, hcovers⟩ := (hids.matchesHost_iff_covers hname).1 h
  obtain ⟨front, ending, hcovering, -⟩ := Wildcard.covers_iff.1 hcovers
  have hending : ['*'] :: s.splitOn '.' = ['*'] :: ending :=
    (Wildcard.splitOn_wildcard s).symm.trans hcovering.identity_labels
  rw [(List.cons.inj hending).2]
  exact ⟨front, hcovering⟩

/-- **Wildcards that name too little.**  Let `s` stand behind the asterisk and the full stop of the
only name of a set.  Whenever the set matches a host and no label of `s`, or no label of the host,
is empty, `s` names a domain.  If `s` names none, there is a host that the set matches exactly when
`s` has an empty label, two labels or more, and no asterisk. -/
theorem matchesHost_wildcard_breadth (strict : Bool) {name s : Text} {ids : IdentitySet}
    (hids : ids.ClaimsOnly name) (hname : name.fold = '*' :: '.' :: s) :
    (∀ host, ids.matchesHost strict host = true →
      (∀ label ∈ s.splitOn '.', label ≠ []) ∨
        (∀ label ∈ (Host.normalize host).splitOn '.', label ≠ []) →
      Wildcard.NamesDomain (s.splitOn '.')) ∧
    (¬ Wildcard.NamesDomain (s.splitOn '.') →
      ((∃ host, ids.matchesHost strict host = true) ↔
        [] ∈ s.splitOn '.' ∧ 2 ≤ (s.splitOn '.').length ∧ '*' ∉ s)) := by
  refine ⟨?_, fun hbroad => ⟨?_, ?_⟩⟩
  · intro host h hlabels
    obtain ⟨front, hcovering⟩ := hids.exists_covering hname h
    refine hcovering.namesDomain ?_
    rcases hlabels with hidentity | hhost
    · exact hidentity
    · rw [hcovering.host_labels] at hhost
      exact fun label hlabel => hhost label (List.mem_append_right front hlabel)
  · rintro ⟨host, h⟩
    obtain ⟨front, hcovering⟩ := hids.exists_covering hname h
    refine ⟨?_, hcovering.two_le_length,
      Wildcard.asterisk_not_mem_iff.1 hcovering.asterisk_not_mem⟩
    by_contra hempty
    exact hbroad (hcovering.namesDomain fun label hlabel hnil => hempty (hnil ▸ hlabel))
  · rintro ⟨hempty, htwo, hasterisk⟩
    obtain ⟨hnormal, hliteral⟩ := Host.normalize_of_fold_eq_wildcard hname
    refine ⟨'x' :: '.' :: s, (hids.matchesHost_iff_covers hname).2 ⟨List.cons_ne_nil _ _, ?_⟩⟩
    rw [hnormal]
    exact ⟨hliteral, Wildcard.covers_of_nil_mem hempty htwo hasterisk⟩

/-- The registry of a country, the root of the name tree behind it. -/
def rootedRegistry : Text := "*.Co.UK.".toList

/-- It matches some host, but none without an empty label. -/
theorem matchesHost_rootedRegistry :
    rootedRegistry.fold = '*' :: '.' :: "co.uk.".toList ∧
    (∃ host, (IdentitySet.ofTexts [] [rootedRegistry]).matchesHost true host = true) ∧
    ∀ host, (∀ label ∈ (Host.normalize host).splitOn '.', label ≠ []) →
      (IdentitySet.ofTexts [] [rootedRegistry]).matchesHost false host = false := by
  have hname : rootedRegistry.fold = '*' :: '.' :: "co.uk.".toList := by decide +kernel
  have hbroad : ¬ Wildcard.NamesDomain ("co.uk.".toList.splitOn '.') := fun h =>
    h.not_registry "co".toList "uk".toList (by decide) (by decide) (by decide)
  refine ⟨hname, ?_, ?_⟩
  · exact ((matchesHost_wildcard_breadth true (.inr rfl) hname).2 hbroad).2
      ⟨by decide, by decide, by decide⟩
  · intro host hhost
    rw [← Bool.not_eq_true]
    exact fun h => hbroad ((matchesHost_wildcard_breadth false (.inr rfl) hname).1 host h
      (.inr hhost))

/-- A root dot behind a top-level domain or behind a registry is enough for a wildcard to match what
it names too little for. -/
theorem matchesHost_rootDot :
    (Text.fold "*.com.".toList = '*' :: '.' :: "com.".toList ∧
      (IdentitySet.ofTexts [] ["*.com.".toList]).matchesHost true "victim.com.".toList = true ∧
      ¬ Wildcard.NamesDomain ("com.".toList.splitOn '.')) ∧
    Text.fold "*.co.uk.".toList = '*' :: '.' :: "co.uk.".toList ∧
      (IdentitySet.ofTexts [] ["*.co.uk.".toList]).matchesHost true "victim.co.uk.".toList = true ∧
      ¬ Wildcard.NamesDomain ("co.uk.".toList.splitOn '.') := by
  have hcom : ¬ Wildcard.NamesDomain ("com.".toList.splitOn '.') := fun h =>
    absurd h.two_le_length (by decide)
  have huk : ¬ Wildcard.NamesDomain ("co.uk.".toList.splitOn '.') := fun h =>
    h.not_registry "co".toList "uk".toList (by decide) (by decide) (by decide)
  refine ⟨⟨?_, ?_, hcom⟩, ?_, ?_, huk⟩ <;> decide +kernel

end Hosts

end PeerTrust
