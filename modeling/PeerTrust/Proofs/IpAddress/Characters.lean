import PeerTrust.IpAddress
import PeerTrust.Proofs.Text.Cuts

/-!
The characters of a written address.

An IPv6 address without a zone is written with hexadecimal digits, full stops and colons and with
nothing else, and it holds a colon in any case (`IPv6.isAddressChar_of_parse?`,
`IPv6.colon_mem_of_parse?`).  Whatever delimits an address in a larger text can therefore be found
again, and so can the zone behind it: a text is read as an address exactly when it is the groups of
the address with its zone behind them (`IPv6.parse?_eq_some_iff`).  The readers accept or refuse
part by part, so each lemma follows one reader and says what it has accepted.
-/

namespace PeerTrust

/-! ## Characters and numerals -/

/-- The character may stand in an IPv4 address. -/
def IsDottedChar (c : Char) : Prop := (digitValue? c).isSome = true ∨ c = '.'

instance (c : Char) : Decidable (IsDottedChar c) := inferInstanceAs (Decidable (_ ∨ _))

/-- The character may stand in an IPv6 address without a zone. -/
def IsAddressChar (c : Char) : Prop := IsDottedChar c ∨ c = ':'

instance (c : Char) : Decidable (IsAddressChar c) := inferInstanceAs (Decidable (_ ∨ _))

theorem toNat_of_isSome_digitValue? {c : Char} (h : (digitValue? c).isSome = true) :
    0x30 ≤ c.toNat ∧ c.toNat ≤ 0x66 := by
  have hle : ∀ a b : Char, a ≤ b ↔ a.toNat ≤ b.toNat := fun a b => UInt32.le_iff_toNat_le
  unfold digitValue? at h
  split at h
  · next hdecimal =>
    rw [hle, hle] at hdecimal
    exact ⟨hdecimal.1, le_trans hdecimal.2 (by decide)⟩
  · split at h
    · next hsmall =>
      rw [hle, hle] at hsmall
      exact ⟨le_trans (by decide) hsmall.1, hsmall.2⟩
    · split at h
      · next hcapital =>
        rw [hle, hle] at hcapital
        exact ⟨le_trans (by decide) hcapital.1, le_trans hcapital.2 (by decide)⟩
      · cases h

/-- Characters of an address are printable ASCII characters. -/
theorem IsAddressChar.toNat_bounds {c : Char} (h : IsAddressChar c) :
    0x2E ≤ c.toNat ∧ c.toNat ≤ 0x66 := by
  rcases h with (hdigit | rfl) | rfl
  · obtain ⟨hlow, hhigh⟩ := toNat_of_isSome_digitValue? hdigit
    exact ⟨by omega, hhigh⟩
  · decide
  · decide

theorem IsAddressChar.ascii {c : Char} (h : IsAddressChar c) : c.toNat < 0x80 :=
  lt_of_le_of_lt h.toNat_bounds.2 (by decide)

namespace Text

theorem isSome_digitValue?_of_readDigits? {base acc n : Nat} {s : Text}
    (h : readDigits? base acc s = some n) : ∀ c ∈ s, (digitValue? c).isSome = true := by
  induction s generalizing acc with
  | nil =>
    intro c hc
    exact absurd hc List.not_mem_nil
  | cons d ds ih =>
    unfold readDigits? at h
    split at h
    · next v hv =>
      split at h
      · intro c hc
        rcases List.mem_cons.1 hc with rfl | hmem
        · rw [hv]
          rfl
        · exact ih h c hmem
      · cases h
    · cases h

theorem isSome_digitValue?_of_numeral? {base n : Nat} {s : Text} (h : s.numeral? base = some n) :
    ∀ c ∈ s, (digitValue? c).isSome = true := by
  unfold numeral? at h
  split at h
  · cases h
  · exact isSome_digitValue?_of_readDigits? h

end Text

/-! ## IPv4 addresses -/

namespace IPv4

theorem isDottedChar_of_octet? {s : Text} {n : UInt8} (h : octet? s = some n) :
    ∀ c ∈ s, IsDottedChar c := by
  unfold octet? at h
  split at h
  · split at h
    · next hn => exact fun c hc => .inl (Text.isSome_digitValue?_of_numeral? hn c hc)
    · cases h
  · cases h

theorem isDottedChar_of_parse? {s : Text} {x : IPv4} (h : parse? s = some x) :
    ∀ c ∈ s, IsDottedChar c := by
  unfold parse? at h
  split at h
  · next a b c d hparts =>
    obtain ⟨_, ha, h⟩ := Option.bind_eq_some_iff.1 h
    obtain ⟨_, hb, h⟩ := Option.bind_eq_some_iff.1 h
    obtain ⟨_, hc, h⟩ := Option.bind_eq_some_iff.1 h
    obtain ⟨_, hd, -⟩ := Option.bind_eq_some_iff.1 h
    refine Text.forall_mem_of_splitOn (.inr rfl) ?_
    rw [hparts]
    refine List.forall_mem_cons.2 ⟨isDottedChar_of_octet? ha, ?_⟩
    refine List.forall_mem_cons.2 ⟨isDottedChar_of_octet? hb, ?_⟩
    refine List.forall_mem_cons.2 ⟨isDottedChar_of_octet? hc, ?_⟩
    exact List.forall_mem_singleton.2 (isDottedChar_of_octet? hd)
  · cases h

theorem colon_not_mem_of_parse? {s : Text} {x : IPv4} (h : parse? s = some x) : ':' ∉ s :=
  fun hmem => absurd (isDottedChar_of_parse? h ':' hmem) (by decide)

end IPv4

/-! ## IPv6 addresses -/

namespace IPv6

theorem isAddressChar_of_group? {s : Text} {g : UInt16} (h : group? s = some g) :
    ∀ c ∈ s, IsAddressChar c := by
  unfold group? at h
  split at h
  · obtain ⟨n, hn, -⟩ := Option.map_eq_some_iff.1 h
    exact fun c hc => .inl (.inl (Text.isSome_digitValue?_of_numeral? hn c hc))
  · cases h

theorem isAddressChar_of_mapM_group? {parts : List Text} {gs : List UInt16}
    (h : parts.mapM group? = some gs) : ∀ part ∈ parts, ∀ c ∈ part, IsAddressChar c := by
  induction parts generalizing gs with
  | nil =>
    intro part hpart
    exact absurd hpart List.not_mem_nil
  | cons first parts ih =>
    rw [List.mapM_cons] at h
    obtain ⟨g, hg, h⟩ := Option.bind_eq_some_iff.1 h
    obtain ⟨gs', hgs', -⟩ := Option.bind_eq_some_iff.1 h
    intro part hpart
    rcases List.mem_cons.1 hpart with rfl | hmem
    · exact isAddressChar_of_group? hg
    · exact ih hgs' part hmem

theorem closing?_cons {first : Text} {parts : List Text} (hne : parts ≠ []) {gs : List UInt16}
    (h : closing? (first :: parts) = some gs) :
    ∃ g gs', group? first = some g ∧ closing? parts = some gs' ∧ gs = g :: gs' := by
  obtain ⟨second, parts, rfl⟩ := List.exists_cons_of_ne_nil hne
  unfold closing? at h
  obtain ⟨g, hg, h⟩ := Option.bind_eq_some_iff.1 h
  obtain ⟨gs', hgs', h⟩ := Option.bind_eq_some_iff.1 h
  exact ⟨g, gs', hg, hgs', (Option.some.inj h).symm⟩

/-- Only the last part can stand for two groups. -/
theorem length_le_of_closing? {parts : List Text} {gs : List UInt16}
    (h : closing? parts = some gs) : gs.length ≤ parts.length + 1 := by
  induction parts using closing?.induct generalizing gs with
  | case1 =>
    rw [← Option.some.inj h]
    exact Nat.zero_le _
  | case2 last hdot =>
    unfold closing? at h
    rw [if_pos hdot] at h
    obtain ⟨x, -, rfl⟩ := Option.map_eq_some_iff.1 h
    exact le_refl 2
  | case3 last hdot =>
    unfold closing? at h
    rw [if_neg hdot] at h
    obtain ⟨g, -, rfl⟩ := Option.map_eq_some_iff.1 h
    exact Nat.le_succ 1
  | case4 first parts hne ih =>
    obtain ⟨g, gs', -, hgs', rfl⟩ := closing?_cons hne h
    exact Nat.succ_le_succ (ih hgs')

theorem isAddressChar_of_closing? {parts : List Text} {gs : List UInt16}
    (h : closing? parts = some gs) : ∀ part ∈ parts, ∀ c ∈ part, IsAddressChar c := by
  -- The cases are those of the reader: no part, an IPv4 address or a group at the end, and a
  -- group before other parts.
  induction parts using closing?.induct generalizing gs with
  | case1 =>
    intro part hpart
    exact absurd hpart List.not_mem_nil
  | case2 last hdot =>
    intro part hpart
    rw [List.mem_singleton.1 hpart]
    unfold closing? at h
    rw [if_pos hdot] at h
    obtain ⟨x, hx, -⟩ := Option.map_eq_some_iff.1 h
    exact fun c hc => .inl (IPv4.isDottedChar_of_parse? hx c hc)
  | case3 last hdot =>
    intro part hpart
    rw [List.mem_singleton.1 hpart]
    unfold closing? at h
    rw [if_neg hdot] at h
    obtain ⟨g, hg, -⟩ := Option.map_eq_some_iff.1 h
    exact isAddressChar_of_group? hg
  | case4 first parts hne ih =>
    obtain ⟨g, gs', hg, hgs', -⟩ := closing?_cons hne h
    intro part hpart
    rcases List.mem_cons.1 hpart with rfl | hmem
    · exact isAddressChar_of_group? hg
    · exact ih hgs' part hmem

theorem isAddressChar_of_parts {s : Text} (h : ∀ part ∈ parts s, ∀ c ∈ part, IsAddressChar c) :
    ∀ c ∈ s, IsAddressChar c := by
  unfold parts at h
  split at h
  · next hempty =>
    rw [List.isEmpty_iff.1 hempty]
    exact fun c hc => absurd hc List.not_mem_nil
  · exact Text.forall_mem_of_splitOn (.inr rfl) h

theorem length_parts_le_of_not_mem {s : Text} (h : ':' ∉ s) : (parts s).length ≤ 1 := by
  unfold parts
  split
  · exact Nat.zero_le 1
  · have hnone : ∀ c ∈ s, (c == ':') = false := by
      intro c hc
      rw [beq_eq_false_iff_ne]
      rintro rfl
      exact h hc
    unfold List.splitOn
    rw [List.splitOnP_eq_singleton hnone]
    exact le_refl 1

/-- The gap is a pair of colons, and cutting there loses nothing else. -/
theorem eq_of_splitGap? {s front back : Text} (h : splitGap? s = some (front, back)) :
    s = front ++ ':' :: ':' :: back := by
  induction s generalizing front with
  | nil => cases h
  | cons c rest ih =>
    unfold splitGap? at h
    split at h
    · next hgap =>
      obtain ⟨rfl, hhead⟩ := hgap
      obtain ⟨tail, rfl⟩ := List.head?_eq_some_iff.1 hhead
      cases h
      rfl
    · obtain ⟨⟨front', back'⟩, hrest, heq⟩ := Option.map_eq_some_iff.1 h
      cases heq
      rw [ih hrest]
      rfl

theorem isAddressChar_of_groups? {s : Text} {gs : List UInt16} (h : groups? s = some gs) :
    ∀ c ∈ s, IsAddressChar c := by
  unfold groups? at h
  split at h
  · exact isAddressChar_of_parts (isAddressChar_of_closing? h)
  · next front back hgap =>
    obtain ⟨high, hhigh, h⟩ := Option.bind_eq_some_iff.1 h
    obtain ⟨low, hlow, -⟩ := Option.bind_eq_some_iff.1 h
    have hfront : ∀ c ∈ front, IsAddressChar c :=
      isAddressChar_of_parts (isAddressChar_of_mapM_group? hhigh)
    have hback : ∀ c ∈ back, IsAddressChar c :=
      isAddressChar_of_parts (isAddressChar_of_closing? hlow)
    intro c hc
    rw [eq_of_splitGap? hgap, List.mem_append, List.mem_cons, List.mem_cons] at hc
    rcases hc with hc | rfl | rfl | hc
    · exact hfront c hc
    · exact .inr rfl
    · exact .inr rfl
    · exact hback c hc

/-- Without a colon there is no gap and at most one part, so there are at most two groups. -/
theorem colon_mem_of_groups? {s : Text} {gs : List UInt16} (h : groups? s = some gs)
    (hlength : gs.length = 8) : ':' ∈ s := by
  unfold groups? at h
  split at h
  · -- Without a gap every group has to be written, and colons are what separates them.
    by_contra hcolon
    have hgroups : gs.length ≤ (parts s).length + 1 := length_le_of_closing? h
    have hparts : (parts s).length ≤ 1 := length_parts_le_of_not_mem hcolon
    omega
  · next front back hgap =>
    rw [eq_of_splitGap? hgap]
    exact List.mem_append_right _ List.mem_cons_self

theorem not_mem_of_groups? {s : Text} {gs : List UInt16} (h : groups? s = some gs) {c : Char}
    (hc : ¬ IsAddressChar c) : c ∉ s :=
  fun hmem => hc (isAddressChar_of_groups? h c hmem)

/-! ### Zones -/

/-- How a zone is written behind an address. -/
def zoneText : Option Text → Text
  | none => []
  | some zone => '%' :: zone

/-- The zone can be written behind an address and is found there again. -/
def IsWritable (zone : Option Text) : Prop :=
  ∀ z, zone = some z → z ≠ [] ∧ '%' ∉ z ∧ '/' ∉ z

theorem toText_eq (x : IPv6) : x.toText = addressText x.groups ++ zoneText x.zone := by
  unfold toText
  cases x.zone <;> rfl

theorem zone?_append_zoneText {s : Text} {zone : Option Text} (h : '%' ∉ s)
    (hzone : IsWritable zone) :
    zone? (s ++ zoneText zone) = some zone ∧ (s ++ zoneText zone).upTo '%' = s := by
  unfold zone?
  cases zone with
  | none =>
    rw [zoneText, List.append_nil, Text.past?_of_not_mem h, Text.upTo_of_not_mem h]
    exact ⟨rfl, rfl⟩
  | some zone =>
    obtain ⟨hne, hpercent, -⟩ := hzone zone rfl
    rw [zoneText, Text.past?_append_cons h, Text.upTo_append_cons h]
    dsimp only
    rw [if_neg]
    · exact ⟨rfl, rfl⟩
    · rintro (hempty | hmem)
      · exact hne (List.isEmpty_iff.1 hempty)
      · exact hpercent hmem

theorem eq_append_zoneText_of_zone? {s : Text} {zone : Option Text} (h : zone? s = some zone)
    (hslash : '/' ∉ s) : s = s.upTo '%' ++ zoneText zone ∧ IsWritable zone := by
  unfold zone? at h
  split at h
  · next hnone =>
    cases h
    rw [Text.upTo_of_not_mem (Text.past?_eq_none_iff.1 hnone), zoneText, List.append_nil]
    exact ⟨rfl, fun z hz => by cases hz⟩
  · next zone' hpast =>
    split at h
    · cases h
    · next hzone =>
      cases h
      rw [not_or] at hzone
      have hs : s.upTo '%' ++ '%' :: zone' = s := Text.upTo_append_past? hpast
      refine ⟨hs.symm, fun z hz => ?_⟩
      cases hz
      refine ⟨fun hnil => hzone.1 (List.isEmpty_iff.2 hnil), hzone.2, fun hmem => hslash ?_⟩
      rw [← hs]
      exact List.mem_append_right _ (List.mem_cons_of_mem _ hmem)

/-- A written address is its groups, and behind them its zone. -/
theorem parse?_eq_some_iff {s : Text} {x : IPv6} :
    parse? s = some x ↔ ∃ address, groups? address = some x.groups ∧ IsWritable x.zone ∧
      s = address ++ zoneText x.zone := by
  constructor
  · -- The reader cuts at the first percent sign, which is where the writer puts one.
    intro h
    unfold parse? at h
    split at h
    · cases h
    · next hslash =>
      split at h
      · next zone groups hzone hgroups =>
        split at h
        · cases h
          obtain ⟨hs, hwritable⟩ := eq_append_zoneText_of_zone? hzone hslash
          exact ⟨s.upTo '%', hgroups, hwritable, hs⟩
        · cases h
      · cases h
  · rintro ⟨address, hgroups, hwritable, rfl⟩
    obtain ⟨hzone, hupTo⟩ :=
      zone?_append_zoneText (not_mem_of_groups? hgroups (c := '%') (by decide)) hwritable
    have hslash : '/' ∉ address ++ zoneText x.zone := by
      rw [List.mem_append]
      rintro (haddress | hmem)
      · exact not_mem_of_groups? hgroups (by decide) haddress
      · cases hx : x.zone with
        | none => rw [hx] at hmem; cases hmem
        | some zone =>
          rw [hx, zoneText, List.mem_cons] at hmem
          rcases hmem with hsign | hmem
          · exact absurd hsign (by decide)
          · exact (hwritable zone hx).2.2 hmem
    unfold parse?
    rw [if_neg hslash, hzone, hupTo, hgroups]
    exact dif_pos x.length_groups

/-- What is read as an address without a zone is its groups and nothing more. -/
theorem groups?_of_parse? {s : Text} {x : IPv6} (h : parse? s = some x) (hzone : x.zone = none) :
    groups? s = some x.groups := by
  obtain ⟨address, hgroups, -, rfl⟩ := parse?_eq_some_iff.1 h
  rw [hzone, zoneText, List.append_nil]
  exact hgroups

theorem isAddressChar_of_parse? {s : Text} {x : IPv6} (h : parse? s = some x)
    (hzone : x.zone = none) : ∀ c ∈ s, IsAddressChar c :=
  isAddressChar_of_groups? (groups?_of_parse? h hzone)

theorem colon_mem_of_parse? {s : Text} {x : IPv6} (h : parse? s = some x) : ':' ∈ s := by
  obtain ⟨address, hgroups, -, rfl⟩ := parse?_eq_some_iff.1 h
  exact List.mem_append_left _ (colon_mem_of_groups? hgroups x.length_groups)

/-- A zone may be added to any address that has none. -/
theorem parse?_append_zone {s zone : Text} {x : IPv6} (h : parse? s = some x)
    (hzone : x.zone = none) (hne : zone ≠ []) (hpercent : '%' ∉ zone) (hslash : '/' ∉ zone) :
    parse? (s ++ '%' :: zone) = some { x with zone := some zone } := by
  have hgroups : groups? s = some x.groups := groups?_of_parse? h hzone
  refine parse?_eq_some_iff.2 ⟨s, hgroups, ?_, rfl⟩
  intro z hz
  cases hz
  exact ⟨hne, hpercent, hslash⟩

/-- What stands before the first percent sign of an address is the address without its zone. -/
theorem parse?_of_append_zone {s zone : Text} {x : IPv6} (h : parse? (s ++ '%' :: zone) = some x)
    (hpercent : '%' ∉ s) : parse? s = some { x with zone := none } := by
  obtain ⟨address, hgroups, hwritable, heq⟩ := parse?_eq_some_iff.1 h
  have haddress : s = address := by
    have hcut := congrArg (Text.upTo '%') heq
    rwa [Text.upTo_append_cons hpercent,
      (zone?_append_zoneText (not_mem_of_groups? hgroups (by decide)) hwritable).2] at hcut
  refine parse?_eq_some_iff.2 ⟨s, ?_, nofun, (List.append_nil s).symm⟩
  rw [haddress]
  exact hgroups

theorem slash_not_mem_of_parse? {s : Text} {x : IPv6} (h : parse? s = some x) : '/' ∉ s := by
  intro hslash
  unfold parse? at h
  rw [if_pos hslash] at h
  cases h

end IPv6

namespace IpAddress

/-- A text with a colon is no IPv4 address; it is read as an IPv6 address or not at all. -/
theorem parse?_of_colon_mem {s : Text} (h : ':' ∈ s) : parse? s = (IPv6.parse? s).map .v6 := by
  unfold parse?
  cases hv4 : IPv4.parse? s with
  | none => rfl
  | some x => exact absurd h (IPv4.colon_not_mem_of_parse? hv4)

end IpAddress

end PeerTrust
