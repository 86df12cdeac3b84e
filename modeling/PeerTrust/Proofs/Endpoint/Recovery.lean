import Mathlib.Data.Bool.AllAny
import Mathlib.Data.List.Basic
import PeerTrust.Endpoint.Resolve
import PeerTrust.Proofs.Endpoint.Frame
import PeerTrust.Proofs.Text.Lower

/-!
The host of a hint is the host that was written there.

Whatever scheme, user information, port and tail surround it, a host is resolved to its lower-case
form (`resolve_url`): a name as a whole, an address without the brackets around it, and an address
with a zone up to the zone, whose case is kept and whose percent sign is decoded.  The address of
the socket plays no part.  What remains after `UrlFrame.host_url` is that lower-casing brings in no
character that the later checks look for.
-/

namespace PeerTrust

/-! ## Characters of hosts -/

/-- The character may stand in a host that is a name. -/
def IsNameChar (c : Char) : Prop :=
  IsUrlChar c ∧ c.toNat ≠ 0x7F ∧ c ∉ ['/', '?', '#', '@', ':', '[', ']', '%']

instance (c : Char) : Decidable (IsNameChar c) := inferInstanceAs (Decidable (_ ∧ _))

/-- The character may stand in the zone of an address. -/
def IsZoneChar (c : Char) : Prop :=
  IsUrlChar c ∧ c.toNat ≠ 0x7F ∧ c ∉ ['%', '/', '?', '#', '@', '[', ']']

instance (c : Char) : Decidable (IsZoneChar c) := inferInstanceAs (Decidable (_ ∧ _))

/-- A name is more restricted than a zone: it has no colon either. -/
theorem IsNameChar.isZoneChar {c : Char} (h : IsNameChar c) : IsZoneChar c := by
  obtain ⟨hchar, hdel, hdelimiters⟩ := h
  have hsub : ['%', '/', '?', '#', '@', '[', ']'] ⊆ ['/', '?', '#', '@', ':', '[', ']', '%'] := by
    simp
  exact ⟨hchar, hdel, fun hmem => hdelimiters (hsub hmem)⟩

namespace Endpoint

theorem illegalInUrl_eq_false {c : Char} (h : IsUrlChar c) : illegalInUrl c = false := by
  obtain ⟨hblank, hlow⟩ := h
  unfold illegalInUrl
  rw [hblank, Bool.false_or, decide_eq_false_iff_not]
  omega

theorem illegalInHost_eq_false {c : Char} (hslash : c ≠ '/') (hlow : 0x20 ≤ c.toNat)
    (hdel : c.toNat ≠ 0x7F) : illegalInHost c = false := by
  unfold illegalInHost
  rw [Bool.or_eq_false_iff, Bool.or_eq_false_iff, beq_eq_false_iff_ne, beq_eq_false_iff_ne,
    decide_eq_false_iff_not]
  exact ⟨⟨hslash, by omega⟩, hdel⟩

theorem illegalInHost_of_isLowered {c : Char} (h : IsLowered c) : illegalInHost c = false := by
  refine illegalInHost_eq_false ?_ ?_ ?_
  · rintro rfl
    exact absurd h (by decide)
  all_goals
    -- Small letters lie above the control characters and below DEL, and the rest beyond it.
    unfold IsLowered at h
    omega

/-- A legal host stays legal in lower case. -/
theorem illegalInHost_lower {s : Text} (h : ∀ c ∈ s, illegalInHost c = false) :
    ∀ c ∈ s.lower, illegalInHost c = false := by
  intro c hc
  rcases Text.mem_lower_cases hc with hmem | hlowered
  · exact h c hmem
  · exact illegalInHost_of_isLowered hlowered

theorem illegalInHost_of_isZoneChar {c : Char} (h : IsZoneChar c) : illegalInHost c = false := by
  obtain ⟨⟨-, hlow⟩, hdel, hdelimiters⟩ := h
  refine illegalInHost_eq_false ?_ hlow hdel
  rintro rfl
  exact hdelimiters (by decide)

theorem illegalInHost_of_isAddressChar {c : Char} (h : IsAddressChar c) :
    illegalInHost c = false := by
  obtain ⟨hlow, hhigh⟩ := h.toNat_bounds
  refine illegalInHost_eq_false ?_ (by omega) (by omega)
  rintro rfl
  exact absurd h (by decide)

/-! ## From the host of the URL to the outcome -/

/-- A legal hint whose host is found, decoded and legal resolves to it. -/
theorem resolve_of_host {hint host decoded : Text} (address : Value)
    (hchars : ∀ c ∈ hint, IsUrlChar c) (hhost : Url.host hint = .ok host) (hne : host ≠ [])
    (hdecode : decodeZone host = .ok decoded) (hlegal : ∀ c ∈ decoded, illegalInHost c = false) :
    resolve (some hint) address = .ok decoded := by
  have hurl : hint.any illegalInUrl = false := by
    rw [List.any_eq_false]
    intro c hc
    rw [illegalInUrl_eq_false (hchars c hc)]
    exact Bool.false_ne_true
  have hfinal : decoded.any illegalInHost = false := by
    rw [List.any_eq_false]
    intro c hc
    rw [hlegal c hc]
    exact Bool.false_ne_true
  have hof : hostOfHint hint = .ok decoded := by
    obtain ⟨c, rest, rfl⟩ := List.exists_cons_of_ne_nil hne
    unfold hostOfHint
    rw [hurl, hhost]
    dsimp only
    rw [hdecode]
    dsimp only
    rw [hfinal]
    rfl
  cases hint with
  | nil =>
    -- The empty hint has no host.
    cases hhost
    exact absurd rfl hne
  | cons c rest =>
    show (hostOfHint (c :: rest)).mapError (MalformedHint.mk (c :: rest)) = .ok decoded
    rw [hof]
    rfl

theorem decodeZone_of_not_mem {host : Text} (h : '%' ∉ host) : decodeZone host = .ok host := by
  unfold decodeZone
  rw [Text.past?_of_not_mem h]

/-- The encoded percent sign of a zone is decoded. -/
theorem decodeZone_append {address zone : Text} (hpercent : '%' ∉ address)
    (hcolon : ':' ∈ address) (hne : zone ≠ []) (hzone : '%' ∉ zone) :
    decodeZone (address ++ '%' :: '2' :: '5' :: zone) = .ok (address ++ '%' :: zone) := by
  have hempty : zone.isEmpty = false := by
    rw [List.isEmpty_eq_false_iff]
    exact hne
  have hc : address.contains ':' = true := by
    rw [List.contains_eq_mem, decide_eq_true_eq]
    exact hcolon
  have hp : zone.contains '%' = false := by
    rw [List.contains_eq_mem, decide_eq_false_iff_not]
    exact hzone
  have hguard : (!zone.isEmpty && address.contains ':' && !zone.contains '%') = true := by
    rw [hempty, hc, hp]
    rfl
  unfold decodeZone
  rw [Text.past?_append_cons hpercent, Text.upTo_append_cons hpercent]
  exact if_pos hguard

/-! ## Names -/

theorem lowerHost_of_not_mem {host : Text} (h : '%' ∉ host) : Url.lowerHost host = host.lower := by
  have hrest : host.dropWhile (· != '%') = [] :=
    List.dropWhile_eq_nil_iff.2 (Text.ne_delimiter_of_not_mem h)
  unfold Url.lowerHost
  rw [Text.upTo_of_not_mem h, hrest, List.append_nil]

theorem lowerHost_append {address rest : Text} (h : '%' ∉ address) :
    Url.lowerHost (address ++ '%' :: rest) = address.lower ++ '%' :: rest := by
  unfold Url.lowerHost
  rw [Text.upTo_append_cons h, Text.dropWhile_append_cons h]

variable (f : UrlFrame) (address : Value)

theorem resolve_url_name {h : Text} (hne : h ≠ []) (hchars : ∀ c ∈ h, IsNameChar c)
    (hdisguise : f.Undisguised h) : resolve (some (f.url h)) address = .ok h.lower := by
  have hdelimiters : ∀ d ∈ ['/', '?', '#', '@', ':', '[', ']', '%'], d ∉ h :=
    fun d hd hmem => (hchars d hmem).2.2 hd
  have hpercent : '%' ∉ h := hdelimiters '%' (by decide)
  have hhost : Url.host (f.url h) = .ok h.lower := by
    rw [f.host_url (fun d hd => hdelimiters d (List.mem_append_left ['%'] hd)) hdisguise,
      lowerHost_of_not_mem hpercent]
  refine resolve_of_host address (f.isUrlChar_url fun c hc => (hchars c hc).1) hhost
    (Text.lower_ne_nil hne) (decodeZone_of_not_mem (Text.not_mem_lower hpercent (by decide))) ?_
  exact illegalInHost_lower fun c hc => illegalInHost_of_isZoneChar (hchars c hc).isZoneChar

/-! ## Addresses -/

section

variable {a rest : Text} {x : IPv6} (h : IPv6.parse? a = some x) (hzone : x.zone = none)
include h hzone

theorem not_mem_of_parse? {d : Char} (hd : ¬ IsAddressChar d) : d ∉ a :=
  fun hmem => hd (IPv6.isAddressChar_of_parse? h hzone d hmem)

omit hzone in
theorem colon_mem_lower_of_parse? : ':' ∈ a.lower :=
  Text.mem_lower_of_mem (by decide +kernel) (by decide) (IPv6.colon_mem_of_parse? h)

theorem percent_not_mem_lower_of_parse? : '%' ∉ a.lower :=
  Text.not_mem_lower (not_mem_of_parse? h hzone (by decide)) (by decide)

theorem illegalInHost_lower_of_parse? : ∀ c ∈ a.lower, illegalInHost c = false :=
  illegalInHost_lower fun c hc =>
    illegalInHost_of_isAddressChar (IPv6.isAddressChar_of_parse? h hzone c hc)

theorem isUrlChar_bracketed (hrest : ∀ c ∈ rest, IsUrlChar c) :
    ∀ c ∈ (a ++ rest).bracketed, IsUrlChar c := by
  intro c hc
  rw [Text.mem_bracketed_iff, List.mem_append] at hc
  rcases hc with rfl | (hmem | hmem) | rfl
  · decide
  · obtain ⟨hlow, hhigh⟩ := (IPv6.isAddressChar_of_parse? h hzone c hmem).toNat_bounds
    exact isUrlChar_of_toNat (by omega) (by omega)
  · exact hrest c hmem
  · decide

/-- No address starts as an address of a future version does. -/
theorem checkBracketedHost_append {y : IPv6} (hparse : IPv6.parse? (a ++ rest) = some y) :
    Url.checkBracketedHost (a ++ rest) = .ok () := by
  have hcolon : ':' ∈ a := IPv6.colon_mem_of_parse? h
  have hv6 : IpAddress.parse? (a ++ rest) = some (.v6 y) := by
    rw [IpAddress.parse?_of_colon_mem (List.mem_append_left rest hcolon), hparse]
    rfl
  -- Its first character is one of an address, and `v` is none.
  have hv : (a ++ rest).head? ≠ some 'v' := by
    rw [List.head?_append_of_ne_nil _ (List.ne_nil_of_mem hcolon)]
    intro hhead
    exact not_mem_of_parse? h hzone (by decide) (List.mem_of_mem_head? hhead)
  unfold Url.checkBracketedHost
  rw [if_neg hv, hv6]

/-- A URL around an address, perhaps with something that belongs to it, has it as its host. -/
theorem host_url_append {y : IPv6} (hparse : IPv6.parse? (a ++ rest) = some y)
    (hrest : ∀ d ∈ ['/', '?', '#', '@', ']'], d ∉ rest)
    (hdisguise : f.Undisguised (a ++ rest).bracketed) :
    Url.host (f.url (a ++ rest).bracketed) = .ok (Url.lowerHost (a ++ rest)) := by
  have hdelimiters : ∀ d ∈ ['/', '?', '#', '@', ']'], ¬ IsAddressChar d :=
    List.all_iff_forall_prop.1 (by decide)
  refine f.host_url_bracketed (fun d hd => ?_) (checkBracketedHost_append h hzone hparse) hdisguise
  rw [List.mem_append]
  rintro (hmem | hmem)
  · exact not_mem_of_parse? h hzone (hdelimiters d hd) hmem
  · exact hrest d hd hmem

theorem resolve_url_address (hdisguise : f.Undisguised a.bracketed) :
    resolve (some (f.url a.bracketed)) address = .ok a.lower := by
  have hnil : a ++ [] = a := List.append_nil a
  rw [← hnil] at hdisguise
  have hhost : Url.host (f.url a.bracketed) = .ok a.lower := by
    rw [← lowerHost_of_not_mem (not_mem_of_parse? h hzone (by decide)), ← hnil]
    have hparse : IPv6.parse? (a ++ []) = some x := by rw [hnil, h]
    exact host_url_append f h hzone hparse (fun d _ => List.not_mem_nil) hdisguise
  have hchars : ∀ c ∈ a.bracketed, IsUrlChar c := by
    rw [← hnil]
    exact isUrlChar_bracketed h hzone fun c hc => absurd hc List.not_mem_nil
  exact resolve_of_host address (f.isUrlChar_url hchars) hhost
    (List.ne_nil_of_mem (colon_mem_lower_of_parse? h))
    (decodeZone_of_not_mem (percent_not_mem_lower_of_parse? h hzone))
    (illegalInHost_lower_of_parse? h hzone)

/-- The zone of an address in a URL, after its encoded percent sign. -/
theorem resolve_url_zone {z : Text} (hne : z ≠ []) (hchars : ∀ c ∈ z, IsZoneChar c)
    (hdisguise : f.Undisguised (a ++ '%' :: '2' :: '5' :: z).bracketed) :
    resolve (some (f.url (a ++ '%' :: '2' :: '5' :: z).bracketed)) address =
      .ok (a.lower ++ '%' :: z) := by
  have hz : ∀ d ∈ ['%', '/', '?', '#', '@', '[', ']'], d ∉ z :=
    fun d hd hmem => (hchars d hmem).2.2 hd
  -- The brackets are checked before the zone is decoded: until then the zone is `25` and `z`.
  have hencoded : ∀ d ∈ ['%', '/', '?', '#', '@', '[', ']'], d ∉ '2' :: '5' :: z := by
    intro d hd
    have hdigits : ∀ d ∈ ['%', '/', '?', '#', '@', '[', ']'], d ≠ '2' ∧ d ≠ '5' := by simp
    rw [List.mem_cons, List.mem_cons]
    rintro (rfl | rfl | hmem)
    · exact (hdigits _ hd).1 rfl
    · exact (hdigits _ hd).2 rfl
    · exact hz d hd hmem
  have hrest : ∀ d ∈ ['/', '?', '#', '@', ']'], d ∉ '%' :: '2' :: '5' :: z := by
    intro d hd
    have hsub : ∀ d ∈ ['/', '?', '#', '@', ']'],
        d ≠ '%' ∧ d ∈ ['%', '/', '?', '#', '@', '[', ']'] := by simp
    rw [List.mem_cons]
    rintro (rfl | hmem)
    · exact (hsub _ hd).1 rfl
    · exact hencoded d (hsub d hd).2 hmem
  have hparse := IPv6.parse?_append_zone h hzone (List.cons_ne_nil '2' ('5' :: z))
    (hencoded '%' (by decide)) (hencoded '/' (by decide))
  have hhost : Url.host (f.url (a ++ '%' :: '2' :: '5' :: z).bracketed) =
      .ok (a.lower ++ '%' :: '2' :: '5' :: z) := by
    rw [← lowerHost_append (not_mem_of_parse? h hzone (by decide))]
    exact host_url_append f h hzone hparse hrest hdisguise
  have hurl : ∀ c ∈ '%' :: '2' :: '5' :: z, IsUrlChar c := by
    rw [List.forall_mem_cons, List.forall_mem_cons, List.forall_mem_cons]
    exact ⟨by decide, by decide, by decide, fun c hc => (hchars c hc).1⟩
  refine resolve_of_host address (f.isUrlChar_url (isUrlChar_bracketed h hzone hurl)) hhost
    (List.append_ne_nil_of_right_ne_nil _ (List.cons_ne_nil _ _))
    (decodeZone_append (percent_not_mem_lower_of_parse? h hzone)
      (colon_mem_lower_of_parse? h) hne (hz '%' (by decide))) ?_
  rw [List.forall_mem_append, List.forall_mem_cons]
  exact ⟨illegalInHost_lower_of_parse? h hzone, by decide,
    fun c hc => illegalInHost_of_isZoneChar (hchars c hc)⟩

end

/-! ## All hosts -/

/-- **A host is recovered from whatever URL it was written into.**  The frame and the address of
the socket are arbitrary; the only condition on both together is that no character of the authority
is a delimiter in disguise. -/
theorem resolve_url :
    (∀ h : Text, h ≠ [] → (∀ c ∈ h, IsNameChar c) → f.Undisguised h →
      resolve (some (f.url h)) address = .ok h.lower) ∧
    (∀ (a : Text) (x : IPv6), IPv6.parse? a = some x → x.zone = none →
      f.Undisguised a.bracketed →
      resolve (some (f.url a.bracketed)) address = .ok a.lower) ∧
    (∀ (a : Text) (x : IPv6) (z : Text), IPv6.parse? a = some x → x.zone = none → z ≠ [] →
      (∀ c ∈ z, IsZoneChar c) → f.Undisguised (a ++ "%25".toList ++ z).bracketed →
      resolve (some (f.url (a ++ "%25".toList ++ z).bracketed)) address =
        .ok (a.lower ++ '%' :: z)) := by
  refine ⟨fun h hne hchars hdisguise => resolve_url_name f address hne hchars hdisguise,
    fun a x h hzone hdisguise => resolve_url_address f address h hzone hdisguise,
    fun a x z h hzone hne hchars hdisguise => ?_⟩
  have hjoin : a ++ "%25".toList ++ z = a ++ '%' :: '2' :: '5' :: z := List.append_assoc a _ z
  rw [hjoin] at hdisguise ⊢
  exact resolve_url_zone f address h hzone hne hchars hdisguise

/-- A frame in which user information, port and tail all pretend to be the host. -/
def hostileFrame : UrlFrame where
  initial := 'h'
  schemeRest := "2+tls.1".toList
  userInfo := some "good.example:1@evil.example:2".toList
  port := some "8443:evil".toList
  tail := "/@[::1]:9#?@evil.example".toList
  isAlpha_initial := rfl
  schemeRest_chars := List.all_iff_forall_prop.1 (by decide)
  userInfo_chars := List.all_iff_forall_prop.1 (by decide)
  port_chars := List.all_iff_forall_prop.1 (by decide)
  tail_start := fun _ hc => .inl (Option.some.inj hc).symm
  isUrlChar := List.all_iff_forall_prop.1 (by decide)

/-- A name, an address and an address with a zone come out of the hostile frame as they went in. -/
theorem resolve_url_hostileFrame :
    resolve (some (hostileFrame.url "Host.Example".toList)) .null = .ok "host.example".toList ∧
    resolve (some (hostileFrame.url "[FE80::1:A]".toList)) .null = .ok "fe80::1:a".toList ∧
    resolve (some (hostileFrame.url "[FE80::1:A%25Eth0]".toList)) .null =
      .ok "fe80::1:a%Eth0".toList := by
  have hrecovered := resolve_url hostileFrame .null
  have hparse : IPv6.parse? "FE80::1:A".toList =
      some ⟨[0xFE80, 0, 0, 0, 0, 0, 1, 0xA], none, rfl⟩ := by decide +kernel
  refine ⟨?_, ?_, ?_⟩
  · rw [hrecovered.1 "Host.Example".toList (by decide) (List.all_iff_forall_prop.1 (by decide))
      (List.all_iff_forall_prop.1 (by decide))]
    decide +kernel
  · refine (hrecovered.2.1 "FE80::1:A".toList _ hparse rfl ?_).trans (by decide +kernel)
    exact List.all_iff_forall_prop.1 (by decide)
  · refine (hrecovered.2.2 "FE80::1:A".toList _ "Eth0".toList hparse rfl (by decide) ?_ ?_).trans
      (by decide +kernel)
    · exact List.all_iff_forall_prop.1 (by decide)
    · exact List.all_iff_forall_prop.1 (by decide)

end Endpoint

end PeerTrust
