import PeerTrust.Host
import PeerTrust.Proofs.IpAddress.Casing

/-!
Which hosts are taken for the local machine.

The names of the local machine waive the certificate, so the question is not whether they are
recognised but whether anything else is.  Two steps could let something in.  Lower-casing knows all
of Unicode and brings some characters beyond ASCII into the Latin alphabet: the Kelvin sign becomes
a plain `k`, and the dotted capital starts with a plain `i`.  No name of the table has a `k`, and a
mark follows that `i`, so for these names lower-casing does no more than the case of Latin letters
(`lower_mem_loopbackNames_iff`).  The other step is the removal of a zone.  It cuts at the last
percent sign and looks only at the first three characters, but what it leaves must be in the table
again, and there only the address itself starts with these three
(`dropLoopbackZone_mem_iff`).
-/

namespace PeerTrust.Host

variable {s host : Text}

/-! ## The table -/

theorem ascii_of_mem_loopbackNames :
    ∀ name ∈ loopbackNames, ∀ c ∈ name, c.toNat < 0x80 ∧ c ≠ 'k' := by
  simp [loopbackNames]

theorem percent_not_mem_loopbackName : ∀ name ∈ loopbackNames, '%' ∉ name := by decide

/-- Lower-casing leads to a name of the table only from a spelling in ASCII. -/
theorem lower_mem_loopbackNames_iff :
    s.lower ∈ loopbackNames ↔ s.map Char.toLower ∈ loopbackNames := by
  constructor
  · intro h
    rwa [(Text.lower_eq_iff (ascii_of_mem_loopbackNames _ h)).1 rfl]
  · intro h
    rwa [(Text.lower_eq_iff (ascii_of_mem_loopbackNames _ h)).2 rfl]

/-! ## The zone -/

/-- The text is the loopback address with a zone, empty or not. -/
def IsZonedLoopback (s : Text) : Prop := ∃ zone : Text, s = "::1".toList ++ '%' :: zone ∧ '%' ∉ zone

/-- Of the names of the table only the address starts as it does. -/
theorem eq_of_mem_loopbackNames {front zone : Text} (h : front ∈ loopbackNames)
    (hstart : "::1".toList <+: front ++ '%' :: zone) : front = "::1".toList := by
  have hcases : front = "localhost".toList ∨ front = "localhost.localdomain".toList ∨
      front = "127.0.0.1".toList ∨ front = "::1".toList := by
    simpa [loopbackNames] using h
  rcases hcases with rfl | rfl | rfl | rfl
  · simp at hstart
  · simp at hstart
  · simp at hstart
  · rfl

theorem dropLoopbackZone_mem_iff :
    dropLoopbackZone s ∈ loopbackNames ↔ s ∈ loopbackNames ∨ IsZonedLoopback s := by
  unfold dropLoopbackZone
  by_cases hloopback : "::1".toList <+: s
  · rw [if_pos (List.isPrefixOf_iff_prefix.2 hloopback)]
    by_cases hpercent : '%' ∈ s
    · obtain ⟨front, zone, rfl, hzone⟩ := Text.exists_append_cons_not_mem hpercent
      rw [Text.upToLast?_append_cons hzone, Option.getD_some]
      constructor
      · intro hfront
        rw [eq_of_mem_loopbackNames hfront hloopback]
        exact .inr ⟨zone, rfl, hzone⟩
      · rintro (hlisted | ⟨zone', hzoned, hzone'⟩)
        · exact absurd hpercent (percent_not_mem_loopbackName _ hlisted)
        · -- There is only one last percent sign.
          have hfront := congrArg (Text.upToLast? '%') hzoned
          rw [Text.upToLast?_append_cons hzone, Text.upToLast?_append_cons hzone'] at hfront
          rw [Option.some.inj hfront]
          decide
    · rw [Text.upToLast?_of_not_mem hpercent, Option.getD_none, or_iff_left]
      rintro ⟨zone, rfl, -⟩
      exact hpercent (List.mem_append_right _ List.mem_cons_self)
  · rw [if_neg (mt List.isPrefixOf_iff_prefix.1 hloopback), or_iff_left]
    rintro ⟨zone, rfl, -⟩
    exact hloopback (List.prefix_append _ _)

/-- The signs of an address have no case, and a zone may be lower-cased with them or not. -/
theorem isZonedLoopback_lower_iff : IsZonedLoopback s.lower ↔ IsZonedLoopback s := by
  have hsigns : ∀ c ∈ "::1".toList, c.toNat < 0x80 ∧ c ≠ 'k' := by simp
  constructor
  · rintro ⟨zone, hs, hzone⟩
    have hzoneText : s.lower = "::1".toList ++ IPv6.zoneText (some zone) := hs
    obtain ⟨address, zone', rfl, haddress, hlower⟩ :=
      IPv6.exists_of_lower_eq_append_zoneText hzoneText (by decide)
    obtain ⟨zone', rfl, rfl⟩ := Option.map_eq_some_iff.1 hlower
    rw [Text.lower_eq_iff hsigns, map_toLower_eq_iff (by simp)] at haddress
    refine ⟨zone', ?_, ?_⟩
    · rw [haddress, IPv6.zoneText]
    · rwa [Text.mem_lower_iff (by decide +kernel) (by decide)] at hzone
  · rintro ⟨zone, rfl, hzone⟩
    refine ⟨Text.lower zone, ?_, Text.not_mem_lower hzone (by decide)⟩
    rw [Text.lower_append_barrier (by decide +kernel)]
    rfl

/-! ## Hosts -/

theorem isLoopback_eq_true_iff :
    isLoopback host = true ↔
      host.trim.map Char.toLower ∈ loopbackNames ∨ IsZonedLoopback host.trim := by
  unfold isLoopback Text.fold
  rw [List.contains_iff_mem, dropLoopbackZone_mem_iff, lower_mem_loopbackNames_iff,
    isZonedLoopback_lower_iff]

/-- **The local machine.**  A host is taken for the local machine exactly when without the blanks
around it, it is one of the four names up to the case of Latin letters, or `::1%` with anything
behind it that has no percent sign.  Nothing but the zone may then be beyond ASCII, and only the
loopback address may have a zone. -/
theorem isLoopback_iff (host : Text) :
    (isLoopback host = true ↔
      (∃ name ∈ ["localhost", "localhost.localdomain", "127.0.0.1", "::1"],
        host.trim.map Char.toLower = name.toList) ∨
      ∃ zone, host.trim = "::1%".toList ++ zone ∧ '%' ∉ zone) ∧
    (isLoopback host = true → ∀ c ∈ host.trim.upTo '%', c.toNat < 0x80) ∧
    (isLoopback host = true → '%' ∈ host.trim → "::1%".toList <+: host.trim) := by
  have hlisted : (∃ name ∈ ["localhost", "localhost.localdomain", "127.0.0.1", "::1"],
      host.trim.map Char.toLower = name.toList) ↔
        host.trim.map Char.toLower ∈ loopbackNames := by
    simp [loopbackNames]
  refine ⟨?_, ?_, ?_⟩
  · rw [isLoopback_eq_true_iff, hlisted]
    rfl
  · intro h c hc
    rcases isLoopback_eq_true_iff.1 h with hname | ⟨zone, hzoned, -⟩
    · have hlower := List.mem_map_of_mem (f := Char.toLower) (Text.mem_of_mem_upTo hc)
      exact ascii_of_toLower (ascii_of_mem_loopbackNames _ hname _ hlower).1
    · rw [hzoned, Text.upTo_append_cons (by decide)] at hc
      have haddress : ∀ c ∈ "::1".toList, c.toNat < 0x80 := by simp
      exact haddress c hc
  · intro h hpercent
    rcases isLoopback_eq_true_iff.1 h with hname | ⟨zone, hzoned, -⟩
    · rw [← Text.mem_map_toLower_iff (by decide)] at hpercent
      exact absurd hpercent (percent_not_mem_loopbackName _ hname)
    · exact ⟨zone, hzoned.symm⟩

/-- A host with a zone beyond ASCII, between blanks. -/
def zonedLoopback : Text := "\u00A0::1%Σ\u0130 ".toList

/-- The zone may be anything, but it must be the zone of the loopback address. -/
theorem isLoopback_zonedLoopback :
    isLoopback zonedLoopback = true ∧ "::1%".toList <+: zonedLoopback.trim ∧
    isLoopback "localhost%lo".toList = false ∧
    isLoopback "localhost.localdoma\u0130n".toList = false := by
  have hzoned : isLoopback zonedLoopback = true :=
    (isLoopback_iff zonedLoopback).1.2 (.inr ⟨"Σ\u0130".toList, by decide +kernel, by decide⟩)
  refine ⟨hzoned, (isLoopback_iff zonedLoopback).2.2 hzoned (by decide +kernel), ?_, ?_⟩
  · rw [← Bool.not_eq_true]
    intro h
    exact absurd ((isLoopback_iff _).2.2 h (by decide +kernel)) (by decide +kernel)
  · rw [← Bool.not_eq_true]
    intro h
    exact absurd ((isLoopback_iff _).2.1 h '\u0130' (by decide +kernel)) (by decide)

end PeerTrust.Host
