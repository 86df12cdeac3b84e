import PeerTrust.Proofs.IpAddress.Characters
import PeerTrust.Proofs.Text.Latin
import PeerTrust.Proofs.Text.Numeral

/-!
A written address in lower case.

Hosts are compared in lower case, so an address may have been lower-cased before it is read, and
the reader must not notice.  Outside the zone an address is ASCII, and there lower-casing changes
one character at a time, a capital digit into the small digit of the same value and no character
into or out of a delimiter.  Each reader is therefore shown not to see the difference.  The zone is
another matter: it is any text and is kept as it is written, so that the address of a text in lower
case has its zone in lower case (`IpAddress.lowerZone`).

Lower-casing does not make an address out of anything else either (`IpAddress.parse?_lower_iff`).
No character beyond ASCII becomes one of those that an address is written with.
-/

namespace PeerTrust

/-! ## Characters -/

theorem digitValue?_toLower (c : Char) : digitValue? c.toLower = digitValue? c :=
  apply_toLower (by decide) c

/-- The characters of an address were ASCII characters before they were lower-cased. -/
theorem ascii_of_isAddressChar_lower {s : Text} (h : ∀ c ∈ s.lower, IsAddressChar c) :
    ∀ c ∈ s, c.toNat < 0x80 := by
  refine Text.ascii_of_lower fun c hc => ⟨(h c hc).ascii, ?_⟩
  rintro rfl
  exact absurd (h 'k' hc) (by decide)

/-! ## Numerals -/

namespace Text

variable {d : Char}

theorem readDigits?_map_toLower (base acc : Nat) (s : Text) :
    readDigits? base acc (s.map Char.toLower) = readDigits? base acc s := by
  induction s generalizing acc with
  | nil => rfl
  | cons c s ih =>
    rw [List.map_cons, readDigits?_cons, readDigits?_cons, digitValue?_toLower]
    cases digitValue? c with
    | none => rfl
    | some v =>
      dsimp only
      rw [ih]

theorem numeral?_map_toLower (base : Nat) (s : Text) :
    numeral? base (s.map Char.toLower) = numeral? base s := by
  unfold numeral?
  rw [List.isEmpty_map, readDigits?_map_toLower]

theorem mem_map_toLower_iff (hd : d.isAlpha = false) (s : Text) :
    d ∈ s.map Char.toLower ↔ d ∈ s := by
  rw [List.mem_map]
  constructor
  · rintro ⟨c, hc, hlower⟩
    rwa [← (toLower_eq_iff hd c).1 hlower]
  · intro h
    exact ⟨d, h, (toLower_eq_iff hd d).2 rfl⟩

theorem head?_map_toLower_iff (hd : d.isAlpha = false) (s : Text) :
    (s.map Char.toLower).head? = some d ↔ s.head? = some d := by
  rw [List.head?_map, Option.map_eq_some_iff]
  constructor
  · rintro ⟨c, hc, hlower⟩
    rwa [← (toLower_eq_iff hd c).1 hlower]
  · intro h
    exact ⟨d, h, (toLower_eq_iff hd d).2 rfl⟩

end Text

/-! ## IPv4 addresses -/

namespace IPv4

theorem octet?_map_toLower (s : Text) : octet? (s.map Char.toLower) = octet? s := by
  have hzero : s.map Char.toLower = ['0'] ↔ s = ['0'] := by
    rw [List.map_eq_singleton_iff]
    constructor
    · rintro ⟨c, rfl, hlower⟩
      rw [(toLower_eq_iff (by decide) c).1 hlower]
    · rintro rfl
      exact ⟨'0', rfl, by decide⟩
  have hhead : (s.map Char.toLower).head? ≠ some '0' ↔ s.head? ≠ some '0' :=
    not_congr (Text.head?_map_toLower_iff (by decide) s)
  unfold octet?
  rw [List.length_map, Text.numeral?_map_toLower]
  exact if_congr (and_congr_right fun _ => or_congr hzero hhead) rfl rfl

theorem parse?_map_toLower (s : Text) : parse? (s.map Char.toLower) = parse? s := by
  unfold parse?
  rw [Text.splitOn_map (toLower_eq_iff (by decide)) s]
  -- Only a text of four parts is looked at further.
  match s.splitOn '.' with
  | [a, b, c, d] =>
    simp only [List.map_cons, List.map_nil, octet?_map_toLower]
  | [] | [_] | [_, _] | [_, _, _] | _ :: _ :: _ :: _ :: _ :: _ => rfl

end IPv4

/-! ## IPv6 addresses -/

namespace IPv6

theorem group?_map_toLower (s : Text) : group? (s.map Char.toLower) = group? s := by
  unfold group?
  rw [List.length_map, Text.numeral?_map_toLower]

theorem mapM_group?_map_toLower (parts : List Text) :
    (parts.map (List.map Char.toLower)).mapM group? = parts.mapM group? := by
  induction parts with
  | nil => rfl
  | cons part parts ih => rw [List.map_cons, List.mapM_cons, List.mapM_cons, group?_map_toLower, ih]

theorem closing?_map_toLower (parts : List Text) :
    closing? (parts.map (List.map Char.toLower)) = closing? parts := by
  induction parts with
  | nil => rfl
  | cons part parts ih =>
    cases parts with
    | nil =>
      -- The last part is read as an IPv4 address if it has a full stop, in either case.
      have hdot : (part.map Char.toLower).contains '.' = part.contains '.' := by
        rw [Bool.eq_iff_iff, List.contains_iff_mem, List.contains_iff_mem]
        exact Text.mem_map_toLower_iff (by decide) part
      rw [List.map_singleton]
      unfold closing?
      rw [hdot, IPv4.parse?_map_toLower, group?_map_toLower]
    | cons next parts =>
      rw [List.map_cons, List.map_cons] at *
      unfold closing?
      rw [group?_map_toLower, ih]

theorem parts_map_toLower (s : Text) :
    parts (s.map Char.toLower) = (parts s).map (List.map Char.toLower) := by
  unfold parts
  rw [List.isEmpty_map]
  split
  · rfl
  · exact Text.splitOn_map (toLower_eq_iff (by decide)) s

theorem splitGap?_map_toLower (s : Text) :
    splitGap? (s.map Char.toLower) =
      (splitGap? s).map (Prod.map (List.map Char.toLower) (List.map Char.toLower)) := by
  induction s with
  | nil => rfl
  | cons c s ih =>
    have hgap : c.toLower = ':' ∧ (s.map Char.toLower).head? = some ':' ↔
        c = ':' ∧ s.head? = some ':' :=
      and_congr (toLower_eq_iff (by decide) c) (Text.head?_map_toLower_iff (by decide) s)
    rw [List.map_cons]
    unfold splitGap?
    by_cases h : c = ':' ∧ s.head? = some ':'
    · rw [if_pos (hgap.2 h), if_pos h, ← List.map_tail]
      rfl
    · rw [if_neg (fun h' => h (hgap.1 h')), if_neg h, ih, Option.map_map, Option.map_map]
      rfl

theorem groups?_map_toLower (s : Text) : groups? (s.map Char.toLower) = groups? s := by
  unfold groups?
  rw [splitGap?_map_toLower]
  cases splitGap? s with
  | none =>
    rw [Option.map_none]
    dsimp only
    rw [parts_map_toLower, closing?_map_toLower]
  | some gap =>
    rw [Option.map_some]
    dsimp only [Prod.map]
    rw [parts_map_toLower, parts_map_toLower, mapM_group?_map_toLower, closing?_map_toLower]

/-- The address with its zone in lower case. -/
def lowerZone (x : IPv6) : IPv6 := { x with zone := x.zone.map Text.lower }

theorem IsWritable.lower {zone : Option Text} (h : IsWritable zone) :
    IsWritable (zone.map Text.lower) := by
  intro z hz
  obtain ⟨zone', hzone, rfl⟩ := Option.map_eq_some_iff.1 hz
  obtain ⟨hne, hpercent, hslash⟩ := h zone' hzone
  exact ⟨Text.lower_ne_nil hne, Text.not_mem_lower hpercent (by decide),
    Text.not_mem_lower hslash (by decide)⟩

theorem lower_append_zoneText (s : Text) (zone : Option Text) :
    (s ++ zoneText zone).lower = s.lower ++ zoneText (zone.map Text.lower) := by
  cases zone with
  | none =>
    rw [zoneText, Option.map_none, zoneText, List.append_nil, List.append_nil]
  | some zone => exact Text.lower_append_barrier (by decide +kernel) s zone

/-- An address may be lower-cased before it is read. -/
theorem parse?_lower {s : Text} {x : IPv6} (h : parse? s = some x) :
    parse? s.lower = some x.lowerZone := by
  -- The percent sign keeps the address and its zone apart, so each is lowered by itself.
  obtain ⟨address, hgroups, hwritable, rfl⟩ := parse?_eq_some_iff.1 h
  have hascii : ∀ c ∈ address, c.toNat < 0x80 := fun c hc =>
    (isAddressChar_of_groups? hgroups c hc).ascii
  refine parse?_eq_some_iff.2 ⟨address.lower, ?_, hwritable.lower, ?_⟩
  · rw [Text.lower_of_ascii hascii, groups?_map_toLower]
    exact hgroups
  · exact lower_append_zoneText address x.zone

theorem groups?_of_lower {s : Text} {gs : List UInt16} (h : groups? s.lower = some gs) :
    groups? s = some gs := by
  have hascii := ascii_of_isAddressChar_lower (isAddressChar_of_groups? h)
  rwa [Text.lower_of_ascii hascii, groups?_map_toLower] at h

theorem IsWritable.of_lower {zone : Option Text} (h : IsWritable (zone.map Text.lower)) :
    IsWritable zone := by
  intro z hz
  obtain ⟨hne, hpercent, hslash⟩ := h z.lower (by rw [hz, Option.map_some])
  refine ⟨?_, ?_, ?_⟩
  · rintro rfl
    exact hne Text.lower_nil
  · rwa [Text.mem_lower_iff (by decide +kernel) (by decide)] at hpercent
  · rwa [Text.mem_lower_iff (by decide +kernel) (by decide)] at hslash

/-- The zone of a text in lower case begins where that of the text itself does. -/
theorem exists_of_lower_eq_append_zoneText {s address : Text} {zone : Option Text}
    (h : s.lower = address ++ zoneText zone) (hpercent : '%' ∉ address) :
    ∃ address' zone', s = address' ++ zoneText zone' ∧ address'.lower = address ∧
      zone'.map Text.lower = zone := by
  cases zone with
  | none =>
    rw [zoneText, List.append_nil] at h
    exact ⟨s, none, (List.append_nil s).symm, h, rfl⟩
  | some zone =>
    rw [zoneText] at h
    have hmem : '%' ∈ s := by
      rw [← Text.mem_lower_iff (by decide +kernel) (by decide), h]
      exact List.mem_append_right _ List.mem_cons_self
    obtain ⟨front, back, rfl, hfront⟩ := List.eq_append_cons_of_mem hmem
    rw [Text.lower_append_barrier (by decide +kernel)] at h
    -- Both sides are cut at their first percent sign.
    have hfront' : '%' ∉ Text.lower front := Text.not_mem_lower hfront (by decide)
    have haddress := congrArg (Text.upTo '%') h
    have hzone := congrArg (Text.past? '%') h
    rw [Text.upTo_append_cons hfront', Text.upTo_append_cons hpercent] at haddress
    rw [Text.past?_append_cons hfront', Text.past?_append_cons hpercent] at hzone
    exact ⟨front, some back, rfl, haddress, hzone⟩

/-- What is read as an address in lower case is one as it was written, too. -/
theorem parse?_of_lower {s : Text} {y : IPv6} (h : parse? s.lower = some y) :
    ∃ x, parse? s = some x ∧ x.lowerZone = y := by
  obtain ⟨address, hgroups, hwritable, hs⟩ := parse?_eq_some_iff.1 h
  obtain ⟨address', zone, hs', rfl, hzone⟩ :=
    exists_of_lower_eq_append_zoneText hs (not_mem_of_groups? hgroups (by decide))
  refine ⟨{ y with zone := zone }, parse?_eq_some_iff.2 ⟨address', ?_, ?_, hs'⟩, ?_⟩
  · exact groups?_of_lower hgroups
  · rw [← hzone] at hwritable
    exact hwritable.of_lower
  · unfold lowerZone
    rw [hzone]

end IPv6

/-! ## Addresses of either version -/

namespace IpAddress

/-- The address with its zone, if it has one, in lower case. -/
def lowerZone : IpAddress → IpAddress
  | v4 x => v4 x
  | v6 x => v6 x.lowerZone

theorem parse?_eq_v4_iff {s : Text} {x : IPv4} :
    parse? s = some (.v4 x) ↔ IPv4.parse? s = some x := by
  unfold parse?
  cases IPv4.parse? s with
  | none => simp
  | some y => simp

theorem parse?_eq_v6_iff {s : Text} {x : IPv6} :
    parse? s = some (.v6 x) ↔ IPv6.parse? s = some x := by
  constructor
  · intro h
    unfold parse? at h
    split at h
    · cases h
    · obtain ⟨y, hy, heq⟩ := Option.map_eq_some_iff.1 h
      cases heq
      exact hy
  · intro h
    rw [parse?_of_colon_mem (IPv6.colon_mem_of_parse? h), h]
    rfl

theorem parse?_lower {s : Text} {a : IpAddress} (h : parse? s = some a) :
    parse? s.lower = some a.lowerZone := by
  cases a with
  | v4 x =>
    rw [parse?_eq_v4_iff] at h
    have hascii : ∀ c ∈ s, c.toNat < 0x80 := fun c hc =>
      IsAddressChar.ascii (.inl (IPv4.isDottedChar_of_parse? h c hc))
    refine parse?_eq_v4_iff.2 ?_
    rw [Text.lower_of_ascii hascii, IPv4.parse?_map_toLower]
    exact h
  | v6 x => exact parse?_eq_v6_iff.2 (IPv6.parse?_lower (parse?_eq_v6_iff.1 h))

/-- Reading a text in lower case gives the address of the text, its zone in lower case. -/
theorem parse?_lower_iff {s : Text} {b : IpAddress} :
    parse? s.lower = some b ↔ ∃ a, parse? s = some a ∧ a.lowerZone = b := by
  constructor
  · intro h
    cases b with
    | v4 x =>
      rw [parse?_eq_v4_iff] at h
      have hascii :=
        ascii_of_isAddressChar_lower fun c hc => .inl (IPv4.isDottedChar_of_parse? h c hc)
      rw [Text.lower_of_ascii hascii, IPv4.parse?_map_toLower] at h
      exact ⟨.v4 x, parse?_eq_v4_iff.2 h, rfl⟩
    | v6 y =>
      obtain ⟨x, hx, rfl⟩ := IPv6.parse?_of_lower (parse?_eq_v6_iff.1 h)
      exact ⟨.v6 x, parse?_eq_v6_iff.2 hx, rfl⟩
  · rintro ⟨a, ha, rfl⟩
    exact parse?_lower ha

end IpAddress

end PeerTrust
