import PeerTrust.Proofs.Host.Comparison

/-!
Hosts that are brought into normal form twice.

A host is examined again in normal form: what was an address should still be one there, since only
that keeps wildcards away from it, and what made the normal form should leave it alone.  Both hold
of a host without brackets.  Brackets protect what is in them from being trimmed, and a zone may end
in blanks; the brackets are taken off after the blanks around the host, so that the blanks of the
zone come to stand at the end of the normal form and are trimmed the next time.  That is all that
the second time does (`normalize_normalize`).  It makes another address of the host if something of
the zone remains, and otherwise a name, but one without a full stop
(`isIpLiteral_normalize_of_dot_mem`).
-/

namespace PeerTrust

/-! ## Written addresses are in lower case -/

theorem isSmall_digitChar : ∀ d < 16, IsSmall d.digitChar := by decide +kernel

theorem isSmall_of_mem_toDigits {base n : Nat} {c : Char} (hbase : 1 < base) (hmax : base ≤ 16)
    (h : c ∈ Nat.toDigits base n) : IsSmall c := by
  obtain ⟨d, hd, rfl⟩ := Text.exists_digitChar_of_mem_toDigits hbase h
  exact isSmall_digitChar d (by omega)

theorem IPv4.isSmall_of_mem_toText {x : IPv4} {c : Char} (h : c ∈ x.toText) : IsSmall c := by
  rcases Text.mem_intercalate_cases h with rfl | ⟨octet, hoctet, hc⟩
  · decide +kernel
  · simp only [List.mem_cons, List.not_mem_nil, or_false] at hoctet
    rcases hoctet with rfl | rfl | rfl | rfl <;>
      exact isSmall_of_mem_toDigits (by decide) (by decide) hc

namespace IPv6

variable {gs : List UInt16} {zone : Text} {c : Char}

theorem isSmall_of_mem_groupsText (h : c ∈ groupsText gs) : IsSmall c := by
  rcases Text.mem_intercalate_cases h with rfl | ⟨part, hpart, hc⟩
  · decide +kernel
  · obtain ⟨g, -, rfl⟩ := List.mem_map.1 hpart
    exact isSmall_of_mem_toDigits (by decide) (by decide) hc

theorem isSmall_of_mem_addressText (h : c ∈ addressText gs) : IsSmall c := by
  rcases addressText_cases gs with hfull | ⟨front, back, -, -, -, hgap⟩
  · rw [hfull] at h
    exact isSmall_of_mem_groupsText h
  · rw [hgap, List.mem_append, List.mem_cons, List.mem_cons] at h
    rcases h with hfront | rfl | rfl | hback
    · exact isSmall_of_mem_groupsText hfront
    · decide +kernel
    · decide +kernel
    · exact isSmall_of_mem_groupsText hback

/-! ## Written addresses with a zone -/

/-- A written address with a zone is read as this address with this zone, if it may be one. -/
theorem parse?_addressText_zone_iff (h : gs.length = 8) {x : IPv6} :
    parse? (addressText gs ++ '%' :: zone) = some x ↔
      x.groups = gs ∧ x.zone = some zone ∧ IsWritable (some zone) := by
  have hgroups := groups?_addressText h
  rw [parse?_eq_some_iff]
  constructor
  · rintro ⟨address, haddress, hwritable, htext⟩
    -- Both sides are cut at their first percent sign.
    have hcut := congrArg (Text.upTo '%') htext
    rw [Text.upTo_append_cons (not_mem_of_groups? hgroups (by decide)),
      (zone?_append_zoneText (not_mem_of_groups? haddress (by decide)) hwritable).2] at hcut
    rw [← hcut] at haddress htext
    have hzone : '%' :: zone = zoneText x.zone := List.append_cancel_left htext
    cases hx : x.zone with
    | none =>
      rw [hx] at hzone
      cases hzone
    | some zone' =>
      rw [hx] at hzone hwritable
      cases hzone
      exact ⟨Option.some.inj (haddress.symm.trans hgroups), rfl, hwritable⟩
  · rintro ⟨rfl, hx, hwritable⟩
    exact ⟨_, hgroups, by rwa [hx], by rw [hx, zoneText]⟩

end IPv6

namespace Host

variable {s host zone : Text} {gs : List UInt16} {a : IpAddress}

/-! ## Normal forms -/

theorem mem_of_mem_stripBrackets {c : Char} (h : c ∈ stripBrackets s) : c ∈ s := by
  rcases stripBrackets_cases s with hsame | hbrackets
  · rwa [hsame] at h
  · rw [hbrackets]
    exact List.mem_cons_of_mem _ (List.mem_append_left _ h)

/-- In comparable form the host is an IPv6 address with this zone. -/
def HasZone (host zone : Text) : Prop :=
  ∃ x : IPv6, address? host.fold = some (.v6 x) ∧ x.zone = some zone

/-- The zone stands at the end of the host, inside its brackets. -/
theorem HasZone.exists_eq_append (h : HasZone host zone) :
    IPv6.IsWritable (some zone) ∧ ∃ address, stripBrackets host.fold = address ++ '%' :: zone := by
  obtain ⟨x, hx, hzone⟩ := h
  obtain ⟨address, -, hwritable, hs⟩ := IPv6.parse?_eq_some_iff.1 (IpAddress.parse?_eq_v6_iff.1 hx)
  rw [hzone] at hwritable hs
  exact ⟨hwritable, address, hs⟩

theorem HasZone.ne_nil (h : HasZone host zone) : zone ≠ [] := (h.exists_eq_append.1 zone rfl).1

/-- A host has one zone at most. -/
theorem HasZone.exists_iff (h : HasZone host zone) {P : Text → Prop} :
    (∃ zone, HasZone host zone ∧ P zone) ↔ P zone := by
  refine ⟨?_, fun hP => ⟨zone, h, hP⟩⟩
  obtain ⟨x, hx, hzone⟩ := h
  rintro ⟨zone', ⟨y, hy, hzone'⟩, hP⟩
  cases hx.symm.trans hy
  cases hzone.symm.trans hzone'
  exact hP

/-- A normal form is an address with a zone, or no part of it can be trimmed. -/
theorem normalize_cases (host : Text) :
    (Text.IsTrimmed (normalize host) ∧ ∀ zone, ¬ HasZone host zone) ∨
      ∃ gs zone, gs.length = 8 ∧ normalize host = IPv6.addressText gs ++ '%' :: zone ∧
        HasZone host zone := by
  by_cases hzone : ∃ zone, HasZone host zone
  · obtain ⟨zone, x, hx, hxzone⟩ := hzone
    refine .inr ⟨x.groups, zone, x.length_groups, ?_, x, hx, hxzone⟩
    rw [normalize_of_address? hx, IpAddress.toText, IPv6.toText_eq, hxzone, IPv6.zoneText]
  · rw [not_exists] at hzone
    refine .inl ⟨?_, hzone⟩
    cases ha : address? host.fold with
    | none =>
      rw [normalize_of_address?_eq_none ha]
      exact Text.isTrimmed_fold host
    | some a =>
      rw [normalize_of_address? ha]
      cases a with
      | v4 x => exact Text.isTrimmed_of_not_blank (IPv4.not_blank_of_mem_toText x)
      | v6 x =>
        have hnone : x.zone = none :=
          Option.eq_none_iff_forall_ne_some.2 fun zone hxzone => hzone zone ⟨x, ha, hxzone⟩
        rw [IpAddress.toText, IPv6.toText_eq, hnone, IPv6.zoneText, List.append_nil]
        exact Text.isTrimmed_of_not_blank (IPv6.not_blank_of_mem_addressText x.length_groups)

/-- A normal form is in lower case. -/
theorem isSmall_of_mem_normalize {c : Char} (h : c ∈ normalize host) : IsSmall c := by
  cases ha : address? host.fold with
  | none =>
    rw [normalize_of_address?_eq_none ha] at h
    exact Text.isSmall_of_mem_lower h
  | some a =>
    rw [normalize_of_address? ha] at h
    cases a with
    | v4 x => exact IPv4.isSmall_of_mem_toText h
    | v6 x =>
      rw [IpAddress.toText, IPv6.toText_eq, List.mem_append] at h
      rcases h with haddress | hzone
      · exact IPv6.isSmall_of_mem_addressText haddress
      · obtain ⟨address, -, -, hs⟩ :=
          IPv6.parse?_eq_some_iff.1 (IpAddress.parse?_eq_v6_iff.1 ha)
        -- The zone is that of the host in comparable form.
        have hmem : c ∈ stripBrackets host.fold := by
          rw [hs]
          exact List.mem_append_right _ hzone
        exact Text.isSmall_of_mem_lower (mem_of_mem_stripBrackets hmem)

/-- Nothing but trimming is left to do to a normal form. -/
theorem fold_normalize (host : Text) : (normalize host).fold = (normalize host).trim :=
  Text.lowerAfter_of_isSmall fun _ hc => isSmall_of_mem_normalize (Text.mem_of_mem_trim hc)

/-! ## Normal forms of normal forms -/

theorem address?_addressText_zone_iff (h : gs.length = 8) :
    address? (IPv6.addressText gs ++ '%' :: zone) = some a ↔
      IPv6.IsWritable (some zone) ∧
        ∃ x : IPv6, x.groups = gs ∧ x.zone = some zone ∧ a = .v6 x := by
  have hhead : (IPv6.addressText gs ++ '%' :: zone).head? ≠ some '[' := fun hbracket =>
    absurd (IPv6.isAddressChar_of_head?_append (IPv6.groups?_addressText h) h '[' hbracket)
      (by decide)
  unfold address?
  rw [stripBrackets_of_head?_ne hhead]
  cases a with
  | v4 x =>
    refine iff_of_false (fun hparse => ?_) ?_
    · exact IPv4.colon_not_mem_of_parse? (IpAddress.parse?_eq_v4_iff.1 hparse)
        (List.mem_append_left _ (IPv6.colon_mem_addressText h))
    · rintro ⟨-, x, -, -, hx⟩
      cases hx
  | v6 x =>
    rw [IpAddress.parse?_eq_v6_iff, IPv6.parse?_addressText_zone_iff h]
    constructor
    · rintro ⟨hgroups, hzone, hwritable⟩
      exact ⟨hwritable, x, hgroups, hzone, rfl⟩
    · rintro ⟨hwritable, y, hgroups, hzone, hxy⟩
      cases hxy
      exact ⟨hgroups, hzone, hwritable⟩

/-- An address that is read from a trimmed normal form is written as that. -/
theorem toText_of_address?_trim_normalize (h : address? (normalize host).trim = some a) :
    a.toText = (normalize host).trim := by
  rcases normalize_cases host with ⟨htrimmed, -⟩ | ⟨gs, zone, hgs, hnormal, -⟩
  · rw [htrimmed.trim_eq] at h ⊢
    rw [address?_normalize] at h
    rw [normalize_of_address? h]
  · rw [hnormal, IPv6.trim_addressText_zone hgs] at h ⊢
    obtain ⟨-, x, hgroups, hzone, rfl⟩ := (address?_addressText_zone_iff hgs).1 h
    rw [IpAddress.toText, IPv6.toText_eq, hgroups, hzone, IPv6.zoneText]

theorem normalize_normalize_eq_trim (host : Text) :
    normalize (normalize host) = (normalize host).trim := by
  cases h : address? (normalize host).trim with
  | none =>
    rw [← fold_normalize] at h ⊢
    exact normalize_of_address?_eq_none h
  | some a =>
    have htext := toText_of_address?_trim_normalize h
    rw [← fold_normalize] at h
    rw [normalize_of_address? h, htext]

/-- The second time changes something just when the zone ends in a blank. -/
theorem trim_normalize_eq_iff :
    (normalize host).trim = normalize host ↔
      ¬ ∃ zone, HasZone host zone ∧ ∃ c ∈ zone.getLast?, isBlank c = true := by
  rcases normalize_cases host with ⟨htrimmed, hnone⟩ | ⟨gs, zone, hgs, hnormal, hzone⟩
  · refine iff_of_true htrimmed.trim_eq ?_
    rintro ⟨zone, hzone, -⟩
    exact hnone zone hzone
  · rw [hzone.exists_iff, hnormal, IPv6.trim_addressText_zone hgs, List.append_cancel_left_eq,
      List.cons_eq_cons, List.rdropWhile_eq_self_iff]
    simp [List.getLast?_eq_some_getLast hzone.ne_nil, hzone.ne_nil]

/-- The normal form of an address is none just when the zone is nothing but blanks. -/
theorem isIpLiteral_normalize_eq_iff :
    isIpLiteral (normalize host) = isIpLiteral host ↔
      ¬ ∃ zone, HasZone host zone ∧ zone.isAllBlank = true := by
  have hhost : isIpLiteral host = (address? host.fold).isSome := by
    rw [Bool.eq_iff_iff, isIpLiteral_iff, Option.isSome_iff_exists]
  rw [hhost]
  unfold isIpLiteral
  rcases normalize_cases host with ⟨htrimmed, hnone⟩ | ⟨gs, zone, hgs, hnormal, hzone⟩
  · rw [htrimmed.trim_eq, address?_normalize]
    refine iff_of_true rfl ?_
    rintro ⟨zone, hzone, -⟩
    exact hnone zone hzone
  · obtain ⟨x, hx, -⟩ := id hzone
    rw [hzone.exists_iff, hnormal, IPv6.trim_addressText_zone hgs, hx, Option.isSome_some,
      Option.isSome_iff_exists]
    constructor
    · rintro ⟨a, ha⟩ hblank
      obtain ⟨hwritable, -⟩ := (address?_addressText_zone_iff hgs).1 ha
      exact (hwritable _ rfl).1 (List.rdropWhile_eq_nil_iff.2 (List.all_eq_true.1 hblank))
    · intro hblank
      rw [Bool.not_eq_true] at hblank
      exact ⟨_, (address?_addressText_zone_iff hgs).2
        ⟨hzone.exists_eq_append.1.trimmed hblank, ⟨gs, _, hgs⟩, rfl, rfl, rfl⟩⟩

/-- No IP address with a full stop in its normal form is taken for a name there. -/
theorem isIpLiteral_normalize_of_dot_mem (h : isIpLiteral host = true)
    (hdot : '.' ∈ normalize host) : isIpLiteral (normalize host) = true := by
  rw [isIpLiteral_normalize_eq_iff.2, h]
  rintro ⟨zone, ⟨x, hx, hzone⟩, hblank⟩
  rw [normalize_of_address? hx, IpAddress.toText, IPv6.toText_eq, hzone, IPv6.zoneText,
    List.mem_append, List.mem_cons] at hdot
  rcases hdot with hdot | hdot | hdot
  · exact IPv6.dot_not_mem_addressText x.groups hdot
  · exact absurd hdot (by decide)
  · exact absurd (List.all_eq_true.1 hblank '.' hdot) (by decide)

/-- Without brackets around the host its zone has been trimmed with it. -/
theorem not_blank_of_head?_ne (hbracket : host.trim.head? ≠ some '[') (h : HasZone host zone) :
    ∀ c ∈ zone.getLast?, isBlank c = false := by
  have hhead : host.fold.head? ≠ some '[' := fun hfold =>
    hbracket (Text.head?_of_lower (by decide) hfold)
  obtain ⟨-, address, hs⟩ := h.exists_eq_append
  rw [stripBrackets_of_head?_ne hhead] at hs
  intro c hc
  refine (Text.isTrimmed_fold host).last_not_blank c ?_
  rwa [hs, List.append_cons, List.getLast?_append_of_ne_nil _ h.ne_nil]

/-- **A second look.**  Taking the normal form of a normal form is trimming it.  It changes
something exactly when the host is an address whose zone ends in a blank, which only brackets can
bring about, and the normal form is no longer an address exactly when the zone is nothing but
blanks. -/
theorem normalize_normalize (host : Text) :
    normalize (normalize host) = (normalize host).trim ∧
    (normalize (normalize host) = normalize host ↔
      ¬ ∃ zone, HasZone host zone ∧ ∃ c ∈ zone.getLast?, isBlank c = true) ∧
    (isIpLiteral (normalize host) = isIpLiteral host ↔
      ¬ ∃ zone, HasZone host zone ∧ zone.isAllBlank = true) ∧
    (host.trim.head? ≠ some '[' →
      normalize (normalize host) = normalize host ∧
        isIpLiteral (normalize host) = isIpLiteral host) := by
  rw [normalize_normalize_eq_trim]
  refine ⟨rfl, trim_normalize_eq_iff, isIpLiteral_normalize_eq_iff, fun hbracket => ⟨?_, ?_⟩⟩
  · rw [trim_normalize_eq_iff]
    rintro ⟨zone, hzone, c, hc, hblank⟩
    rw [not_blank_of_head?_ne hbracket hzone c hc] at hblank
    cases hblank
  · rw [isIpLiteral_normalize_eq_iff]
    rintro ⟨zone, hzone, hblank⟩
    -- The zone is not empty, so one of its blanks is the last of its characters.
    have hlast := List.getLast?_eq_some_getLast hzone.ne_nil
    have hnot := not_blank_of_head?_ne hbracket hzone _ hlast
    rw [List.all_eq_true.1 hblank _ (List.getLast_mem hzone.ne_nil)] at hnot
    cases hnot

/-- Brackets keep the blank of a zone from being trimmed until they are removed themselves. -/
theorem normalize_blankZone :
    normalize (normalize "[::1%a ]".toList) ≠ normalize "[::1%a ]".toList ∧
    isIpLiteral (normalize "[::1% ]".toList) ≠ isIpLiteral "[::1% ]".toList := by
  decide +kernel

end Host

end PeerTrust
