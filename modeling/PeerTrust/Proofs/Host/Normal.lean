import PeerTrust.Host
import PeerTrust.Proofs.IpAddress.Casing
import PeerTrust.Proofs.IpAddress.RoundTrip

/-!
How a host is prepared before it is read as an address.

It is trimmed, its letters may be lower-cased, and one pair of brackets is taken off.  What is left
must be the same address in whatever order that is done.  Lower-casing leaves the brackets where
they are and changes nothing of an address but its zone (`address?_lower_iff`).  Trimming is not as
harmless: no other part of a written address has a blank in it, but the zone may end in blanks
(`IPv6.trim_addressText_zone`).
-/

namespace PeerTrust

/-! ## The two ends of an address -/

theorem isBlank_of_isAddressChar {c : Char} (h : IsAddressChar c) : isBlank c = false := by
  obtain ⟨hlow, hhigh⟩ := h.toNat_bounds
  exact Text.of_ascii (P := fun c => 0x2E ≤ c.toNat → c.toNat ≤ 0x66 → isBlank c = false)
    (by decide) h.ascii hlow hhigh

theorem IPv4.not_blank_of_mem_toText (x : IPv4) : ∀ c ∈ x.toText, isBlank c = false := fun c hc =>
  isBlank_of_isAddressChar (.inl (isDottedChar_of_parse? (parse?_toText x) c hc))

namespace IPv6

theorem isAddressChar_of_head?_append {gs : List UInt16} {address rest : Text}
    (h : groups? address = some gs) (hlength : gs.length = 8) :
    ∀ c ∈ (address ++ rest).head?, IsAddressChar c := by
  intro c hc
  rw [List.head?_append_of_ne_nil _ (List.ne_nil_of_mem (colon_mem_of_groups? h hlength))] at hc
  exact isAddressChar_of_groups? h c (List.mem_of_mem_head? hc)

theorem not_blank_of_mem_addressText {gs : List UInt16} (h : gs.length = 8) :
    ∀ c ∈ addressText gs, isBlank c = false := fun c hc =>
  isBlank_of_isAddressChar (isAddressChar_of_groups? (groups?_addressText h) c hc)

/-- Of a written address only the end of its zone can be trimmed. -/
theorem trim_addressText_zone {gs : List UInt16} (h : gs.length = 8) (zone : Text) :
    (addressText gs ++ '%' :: zone).trim = addressText gs ++ '%' :: zone.rdropWhile isBlank :=
  Text.trim_append_cons (fun c hc => not_blank_of_mem_addressText h c (List.mem_of_mem_head? hc))
    (List.ne_nil_of_mem (colon_mem_addressText h)) (by decide)

/-- Trimming takes blanks from the end of a zone, and unless there is nothing else something of it
remains. -/
theorem IsWritable.trimmed {zone : Text} (h : IsWritable (some zone))
    (hblank : zone.isAllBlank = false) : IsWritable (some (zone.rdropWhile isBlank)) := by
  obtain ⟨-, hpercent, hslash⟩ := h zone rfl
  have hkept : ∀ c ∈ zone.rdropWhile isBlank, c ∈ zone := fun c hc =>
    (List.rdropWhile_prefix isBlank zone).subset hc
  intro z hz
  cases hz
  refine ⟨fun hnil => ?_, fun hmem => hpercent (hkept _ hmem), fun hmem => hslash (hkept _ hmem)⟩
  have hall : zone.isAllBlank = true := List.all_eq_true.2 (List.rdropWhile_eq_nil_iff.1 hnil)
  rw [hblank] at hall
  cases hall

end IPv6

namespace IpAddress

theorem isAddressChar_of_head? {s : Text} {a : IpAddress} (h : parse? s = some a) :
    ∀ c ∈ s.head?, IsAddressChar c := by
  cases a with
  | v4 x =>
    rw [parse?_eq_v4_iff] at h
    exact fun c hc => .inl (IPv4.isDottedChar_of_parse? h c (List.mem_of_mem_head? hc))
  | v6 x =>
    obtain ⟨address, hgroups, -, rfl⟩ := IPv6.parse?_eq_some_iff.1 (parse?_eq_v6_iff.1 h)
    exact IPv6.isAddressChar_of_head?_append hgroups x.length_groups

end IpAddress

namespace Host

/-! ## Brackets -/

theorem stripBrackets_of_head?_ne {s : Text} (h : s.head? ≠ some '[') : stripBrackets s = s := by
  unfold stripBrackets
  rw [if_neg fun hbrackets => h hbrackets.1]

theorem stripBrackets_bracketed (inner : Text) :
    stripBrackets ('[' :: (inner ++ [']'])) = inner := by
  have hlast : ('[' :: (inner ++ [']'])).getLast? = some ']' := by
    rw [← List.cons_append, List.getLast?_concat]
  unfold stripBrackets
  rw [if_pos ⟨rfl, hlast⟩, List.tail_cons, List.dropLast_concat]

/-- Either there are no brackets to remove, or they stand around what remains. -/
theorem stripBrackets_cases (s : Text) :
    stripBrackets s = s ∨ s = '[' :: (stripBrackets s ++ [']']) := by
  by_cases h : s.head? = some '[' ∧ s.getLast? = some ']'
  · obtain ⟨hhead, hlast⟩ := h
    obtain ⟨rest, rfl⟩ := List.head?_eq_some_iff.1 hhead
    obtain ⟨front, hfront⟩ := List.getLast?_eq_some_iff.1 hlast
    cases front with
    -- One bracket cannot be both.
    | nil => cases hfront
    | cons c inner =>
      obtain ⟨rfl, hrest⟩ := List.cons.inj hfront
      rw [List.append_eq] at hrest
      rw [hrest, stripBrackets_bracketed]
      exact .inr rfl
  · unfold stripBrackets
    exact .inl (if_neg h)

theorem address?_of_parse? {s : Text} {a : IpAddress} (h : IpAddress.parse? s = some a) :
    address? s = some a := by
  have hhead : s.head? ≠ some '[' := by
    intro hbracket
    exact absurd (IpAddress.isAddressChar_of_head? h '[' hbracket) (by decide)
  unfold address?
  rw [stripBrackets_of_head?_ne hhead, h]

theorem address?_eq_none_of_head? {s : Text} {c : Char} (h : s.head? = some c)
    (hbracket : c ≠ '[') (hc : ¬ IsAddressChar c) : address? s = none := by
  have hhead : s.head? ≠ some '[' := by
    rw [h]
    exact fun heq => hbracket (Option.some.inj heq)
  unfold address?
  rw [stripBrackets_of_head?_ne hhead, Option.eq_none_iff_forall_ne_some]
  exact fun a hparse => hc (IpAddress.isAddressChar_of_head? hparse c h)

/-- Lower-casing leaves the brackets where they are. -/
theorem stripBrackets_lower (s : Text) : stripBrackets s.lower = (stripBrackets s).lower := by
  rcases stripBrackets_cases s with hsame | hs
  · rw [hsame]
    rcases stripBrackets_cases s.lower with hlower | hbrackets
    · exact hlower
    · -- Brackets of the lower-case form would be brackets of the text itself.
      exfalso
      have hhead : s.head? = some '[' := by
        refine Text.head?_of_lower (by decide) ?_
        rw [hbrackets]
        rfl
      have hlast : s.getLast? = some ']' := by
        refine Text.getLast?_of_lower (by decide) ?_
        rw [hbrackets, ← List.cons_append, List.getLast?_concat]
      obtain ⟨rest, rfl⟩ := List.head?_eq_some_iff.1 hhead
      have hlength := congrArg List.length hsame
      unfold stripBrackets at hlength
      rw [if_pos ⟨rfl, hlast⟩, List.length_dropLast, List.tail_cons, List.length_cons] at hlength
      omega
  · -- Brackets end the word on either side, so what they enclose is lowered by itself.
    have hlower : s.lower = '[' :: ((stripBrackets s).lower ++ [']']) := by
      have hopen := Text.lower_append_barrier (b := '[') (by decide +kernel) []
        (stripBrackets s ++ [']'])
      have hclose := Text.lower_append_barrier (b := ']') (by decide +kernel) (stripBrackets s) []
      rw [List.nil_append, ← hs, hclose] at hopen
      exact hopen
    rw [hlower, stripBrackets_bracketed]

/-- Whether a host is lower-cased before the address is read makes a difference to the zone only. -/
theorem address?_lower_iff {s : Text} {b : IpAddress} :
    address? s.lower = some b ↔ ∃ a, address? s = some a ∧ a.lowerZone = b := by
  unfold address?
  rw [stripBrackets_lower, IpAddress.parse?_lower_iff]

theorem isIpLiteral_of_parse?_trim {s : Text} {a : IpAddress}
    (h : IpAddress.parse? s.trim = some a) : isIpLiteral s = true := by
  unfold isIpLiteral
  rw [address?_of_parse? h]
  rfl

end Host

end PeerTrust
