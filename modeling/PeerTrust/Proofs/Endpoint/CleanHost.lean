import PeerTrust.Proofs.Endpoint.Recovery
import PeerTrust.Proofs.Host.Normal

/-!
Whatever a hint looks like, the host taken from it is clean.

Hints come from anywhere, so nothing is assumed of them here: brackets may be nested, misplaced or
only in the user information, there may be many commercial ats, and a percent sign may be encoded
twice.  What comes out is either a refusal that names the hint, or a host that later stages can
rely on (`IsCleanHost`).

No single check is responsible for that.  Delimiters are gone with the cuts, white space and control
characters with two checks of characters; a colon can only have come from within brackets, where an
address is demanded; and a percent sign is refused unless an address stands before it.  The proof
first says what a resolved hint has passed (`Resolves`) and how the host comes out of what is
written in its place (`Reads`), and then draws on these two.
-/

namespace PeerTrust

/-! ## Cuts -/

namespace Url

variable {c : Char} {url authority location host : Text}

theorem mem_of_mem_afterScheme (h : c ∈ afterScheme url) : c ∈ url := by
  unfold afterScheme at h
  split at h
  · next rest hrest =>
    split at h
    · exact Text.mem_of_mem_past? hrest h
    · exact h
  · exact h

theorem mem_of_mem_authority (h : c ∈ Url.authority url) :
    c ∈ url ∧ endsAuthority c = false := by
  unfold Url.authority at h
  split at h
  · next rest hrest =>
    refine ⟨mem_of_mem_afterScheme ?_, ?_⟩
    · rw [hrest]
      exact List.mem_cons_of_mem _ (List.mem_cons_of_mem _ ((List.takeWhile_sublist _).subset h))
    · simpa using List.mem_takeWhile_imp h
  · exact absurd h List.not_mem_nil

theorem mem_of_mem_hostOf (h : c ∈ hostOf location) : c ∈ location := by
  unfold hostOf at h
  split at h
  · next bracketed hbracketed => exact Text.mem_of_mem_past? hbracketed (Text.mem_of_mem_upTo h)
  · exact Text.mem_of_mem_upTo h

/-- Without brackets the host ends at the first colon. -/
theorem bracket_mem_of_colon_mem (h : ':' ∈ hostOf location) : '[' ∈ location := by
  by_contra hbracket
  unfold hostOf at h
  rw [Text.past?_of_not_mem hbracket] at h
  exact Text.not_mem_upTo ':' location h

/-- What of a location belongs neither to a bracketed literal nor to a port. -/
def outsideBrackets (location : Text) : Text :=
  match location.past? '[' with
  | none => location.upTo ':'
  | some bracketed => location.upTo '[' ++ Text.upTo ':' ((bracketed.past? ']').getD [])

/-! ## Checks -/

theorem host_eq_ok (h : Url.host url = .ok host) :
    checkBrackets (Url.authority url) = .ok () ∧
      host = lowerHost (hostOf (Url.location (Url.authority url))) := by
  unfold Url.host at h
  dsimp only at h
  cases hbrackets : checkBrackets (Url.authority url) with
  | error fault =>
    rw [hbrackets] at h
    cases h
  | ok _ =>
    rw [hbrackets] at h
    cases hdelimiters : checkDelimiters (Url.authority url) with
    | error fault =>
      rw [hdelimiters] at h
      cases h
    | ok _ =>
      rw [hdelimiters] at h
      cases h
      exact ⟨rfl, rfl⟩

/-- An opening bracket in the location sets both checks of brackets to work. -/
theorem checkBrackets_eq_ok (h : checkBrackets authority = .ok ())
    (hbracket : '[' ∈ Url.location authority) :
    checkBracketPlaces (Url.location authority) = .ok () ∧
      checkBracketedHost (hostOf (Url.location authority)) = .ok () := by
  have hopen : authority.contains '[' = true :=
    List.contains_iff_mem.2 (Text.mem_of_mem_pastLast hbracket).1
  unfold checkBrackets at h
  rw [if_pos hopen] at h
  split at h
  · cases hplaces : checkBracketPlaces (Url.location authority) with
    | error fault =>
      rw [hplaces] at h
      cases h
    | ok _ =>
      rw [hplaces] at h
      exact ⟨rfl, h⟩
  · cases h

theorem checkBracketedHost_eq_ok (h : checkBracketedHost host = .ok ()) :
    host.head? = some 'v' ∨ ∃ x, IPv6.parse? host = some x := by
  unfold checkBracketedHost at h
  split at h
  · next hv => exact .inl hv
  · split at h
    · cases h
    · cases h
    · next x hx => exact .inr ⟨x, IpAddress.parse?_eq_v6_iff.1 hx⟩

/-- Brackets in their places leave nothing outside of them but a port. -/
theorem outsideBrackets_eq_nil (h : checkBracketPlaces location = .ok ())
    (hbracket : '[' ∈ location) : outsideBrackets location = [] := by
  obtain ⟨before, bracketed, rfl, hbefore⟩ := List.eq_append_cons_of_mem hbracket
  unfold checkBracketPlaces at h
  unfold outsideBrackets
  rw [Text.past?_append_cons hbefore, Text.upTo_append_cons hbefore] at h ⊢
  dsimp only at h ⊢
  split at h
  · next hplaces =>
    rw [Bool.and_eq_true, Bool.or_eq_true, List.isEmpty_iff, List.isEmpty_iff, beq_iff_eq]
      at hplaces
    obtain ⟨hnil, hafter⟩ := hplaces
    rw [hnil, List.nil_append]
    rcases hafter with hnone | hcolon
    · rw [hnone]
      rfl
    · obtain ⟨rest, hrest⟩ := List.head?_eq_some_iff.1 hcolon
      rw [hrest]
      exact Text.upTo_append_cons (s := []) List.not_mem_nil
  · cases h

end Url

namespace Endpoint

/-! ## What is written and what is read -/

/-- What is written in a hint in the place of the host. -/
def written (hint : Text) : Text := Url.hostOf (Url.location (Url.authority hint))

/-- How a host is read: in lower case as a whole; or up to a zone, before which `25` is taken out
after the percent sign.  Nothing else is decoded. -/
inductive Reads : Text → Text → Prop where
  | plain {text : Text} (hpercent : '%' ∉ text) : Reads text text.lower
  | zoned {address zone : Text} (hpercent : '%' ∉ address) (hcolon : ':' ∈ address)
      (hne : zone ≠ []) (hzone : '%' ∉ zone) :
      Reads (address ++ '%' :: '2' :: '5' :: zone) (address.lower ++ '%' :: zone)

variable {c : Char} {hint text host : Text} {address : Value}

theorem mem_of_mem_written (h : c ∈ written hint) :
    c ∈ hint ∧ c ∉ ['/', '?', '#', '@'] := by
  obtain ⟨hauthority, hat⟩ := Text.mem_of_mem_pastLast (Url.mem_of_mem_hostOf h)
  obtain ⟨hhint, hends⟩ := Url.mem_of_mem_authority hauthority
  unfold Url.endsAuthority at hends
  rw [Bool.or_eq_false_iff, Bool.or_eq_false_iff, beq_eq_false_iff_ne, beq_eq_false_iff_ne,
    beq_eq_false_iff_ne] at hends
  refine ⟨hhint, ?_⟩
  simp only [List.mem_cons, List.not_mem_nil, or_false, not_or]
  exact ⟨hends.1.1, hends.1.2, hends.2, hat⟩

/-- A percent sign that is decoded belongs to a zone. -/
theorem decodeZone_eq_ok {address rest : Text} (hpercent : '%' ∉ address)
    (h : decodeZone (address ++ '%' :: rest) = .ok host) :
    ∃ zone, rest = '2' :: '5' :: zone ∧ zone ≠ [] ∧ ':' ∈ address ∧ '%' ∉ zone ∧
      host = address ++ '%' :: zone := by
  unfold decodeZone at h
  rw [Text.past?_append_cons hpercent, Text.upTo_append_cons hpercent] at h
  split at h
  · next heq => cases heq
  · next zone heq =>
    cases heq
    dsimp only at h
    split at h
    · next hguard =>
      rw [Bool.and_eq_true, Bool.and_eq_true, Bool.not_eq_true', Bool.not_eq_true',
        List.isEmpty_eq_false_iff, List.contains_iff_mem] at hguard
      obtain ⟨⟨hne, hcolon⟩, hzone⟩ := hguard
      cases h
      rw [List.contains_eq_mem, decide_eq_false_iff_not] at hzone
      exact ⟨zone, rfl, hne, hcolon, hzone, rfl⟩
    · cases h
  · cases h

theorem reads_of_decodeZone (h : decodeZone (Url.lowerHost text) = .ok host) :
    Reads text host := by
  by_cases hmem : '%' ∈ text
  · obtain ⟨address, rest, rfl, hpercent⟩ := List.eq_append_cons_of_mem hmem
    rw [lowerHost_append hpercent] at h
    obtain ⟨zone, rfl, hne, hcolon, hzone, rfl⟩ :=
      decodeZone_eq_ok (Text.not_mem_lower hpercent (by decide)) h
    rw [Text.mem_lower_iff (by decide +kernel) (by decide)] at hcolon
    exact .zoned hpercent hcolon hne hzone
  · have hlower : '%' ∉ text.lower := Text.not_mem_lower hmem (by decide)
    rw [lowerHost_of_not_mem hmem, decodeZone_of_not_mem hlower] at h
    cases h
    exact .plain hmem

/-- What holds of the characters of a text, and goes over to its lower-case form, holds of what is
read from it. -/
theorem Reads.forall_mem {P : Char → Prop} (h : Reads text host)
    (hlower : ∀ s : Text, (∀ c ∈ s, P c) → ∀ c ∈ s.lower, P c) (htext : ∀ c ∈ text, P c) :
    ∀ c ∈ host, P c := by
  cases h with
  | plain hpercent => exact hlower text htext
  | zoned hpercent hcolon hne hzone =>
    simp only [List.forall_mem_append, List.forall_mem_cons] at htext ⊢
    obtain ⟨haddress, hsign, -, -, hzoneChars⟩ := htext
    exact ⟨hlower _ haddress, hsign, hzoneChars⟩

/-- An address is read as an address. -/
theorem Reads.exists_parse? {x : IPv6} (h : Reads text host) (hparse : IPv6.parse? text = some x) :
    ∃ y, IPv6.parse? host = some y := by
  cases h with
  | plain hpercent => exact ⟨_, IPv6.parse?_lower hparse⟩
  | @zoned address zone hpercent hcolon hne hzone =>
    have hslash : '/' ∉ zone := by
      intro hmem
      refine IPv6.slash_not_mem_of_parse? hparse (List.mem_append_right address ?_)
      exact List.mem_cons_of_mem _ (List.mem_cons_of_mem _ (List.mem_cons_of_mem _ hmem))
    have haddress := IPv6.parse?_lower (IPv6.parse?_of_append_zone hparse hpercent)
    exact ⟨_, IPv6.parse?_append_zone haddress rfl hne hzone hslash⟩

theorem Reads.ne_nil (h : Reads text host) (htext : text ≠ []) : host ≠ [] := by
  cases h with
  | plain hpercent => exact Text.lower_ne_nil htext
  | zoned hpercent hcolon hne hzone =>
    exact List.append_ne_nil_of_right_ne_nil _ (List.cons_ne_nil _ _)

theorem Reads.head?_eq (h : Reads text host) (hv : text.head? = some 'v') :
    host.head? = some 'v' := by
  have hlower : ∀ s : Text, s.head? = some 'v' → s.lower.head? = some 'v' :=
    fun s => Text.head?_lower (by decide +kernel) (by decide)
  cases h with
  | plain hpercent => exact hlower text hv
  | zoned hpercent hcolon hne hzone =>
    have haddress := List.ne_nil_of_mem hcolon
    rw [List.head?_append_of_ne_nil _ haddress] at hv
    rw [List.head?_append_of_ne_nil _ (Text.lower_ne_nil haddress)]
    exact hlower _ hv

theorem Reads.colon_mem (h : Reads text host) (hcolon : ':' ∈ host) : ':' ∈ text := by
  by_contra hnot
  refine h.forall_mem (P := (· ≠ ':')) ?_ ?_ ':' hcolon rfl
  · intro s hs c hc heq
    exact Text.not_mem_lower (fun hmem => hs ':' hmem rfl) (by decide) (heq ▸ hc)
  · rintro c hc rfl
    exact hnot hc

/-- A percent sign is read only where a zone follows an address, and then a single time. -/
theorem Reads.percent (h : Reads text host) (hmem : '%' ∈ host) :
    ∃ address zone, host = address ++ '%' :: zone ∧
      '%' ∉ address ∧ ':' ∈ address ∧ zone ≠ [] ∧ '%' ∉ zone := by
  cases h with
  | plain hpercent => exact absurd hmem (Text.not_mem_lower hpercent (by decide))
  | @zoned address zone hpercent hcolon hne hzone =>
    exact ⟨address.lower, zone, rfl, Text.not_mem_lower hpercent (by decide),
      Text.mem_lower_of_mem (by decide +kernel) (by decide) hcolon, hne, hzone⟩

theorem Reads.percent_not_mem (h : Reads text host) (hcolon : ':' ∉ text) : '%' ∉ text := by
  cases h with
  | plain hpercent => exact hpercent
  | zoned hpercent hmem hne hzone => exact absurd (List.mem_append_left _ hmem) hcolon

/-! ## A resolved hint -/

/-- What a hint has passed when it is resolved to a host. -/
structure Resolves (hint host : Text) : Prop where
  hint_legal : ∀ c ∈ hint, illegalInUrl c = false
  brackets : Url.checkBrackets (Url.authority hint) = .ok ()
  reads : Reads (written hint) host
  ne_nil : host ≠ []
  host_legal : ∀ c ∈ host, illegalInHost c = false

theorem resolves_of_hostOfHint (h : hostOfHint hint = .ok host) : Resolves hint host := by
  unfold hostOfHint at h
  split at h
  · cases h
  · next hlegal =>
    rw [Bool.not_eq_true, List.any_eq_false] at hlegal
    split at h
    · cases h
    · cases h
    · next found hnonempty hfound =>
      obtain ⟨hbrackets, rfl⟩ := Url.host_eq_ok hfound
      split at h
      · cases h
      · next decoded hdecoded =>
        split at h
        · cases h
        · next hhost =>
          cases h
          rw [Bool.not_eq_true, List.any_eq_false] at hhost
          have hreads : Reads (written hint) host := reads_of_decodeZone hdecoded
          have hwritten : written hint ≠ [] := by
            intro hnil
            unfold written at hnil
            rw [hnil] at hnonempty
            exact hnonempty rfl
          exact ⟨fun c hc => Bool.eq_false_iff.2 (hlegal c hc), hbrackets, hreads,
            hreads.ne_nil hwritten, fun c hc => Bool.eq_false_iff.2 (hhost c hc)⟩

/-- A hint that is not empty decides alone. -/
theorem resolve_of_ne_nil (hne : hint ≠ []) (address : Value) :
    resolve (some hint) address = (hostOfHint hint).mapError (⟨hint, ·⟩) := by
  obtain ⟨c, rest, rfl⟩ := List.exists_cons_of_ne_nil hne
  rfl

/-- A hint that is not empty is refused by name or resolved. -/
theorem resolve_cases (hne : hint ≠ []) (address : Value) :
    (∃ fault, resolve (some hint) address = .error ⟨hint, fault⟩) ∨
      ∃ host, resolve (some hint) address = .ok host ∧ Resolves hint host := by
  rw [resolve_of_ne_nil hne]
  cases hhost : hostOfHint hint with
  | error fault => exact .inl ⟨fault, rfl⟩
  | ok host => exact .inr ⟨host, rfl, resolves_of_hostOfHint hhost⟩

/-! ## Clean hosts -/

/-- A host as later stages may expect it.  No character of it is white space, a control character
or a delimiter of URLs; a percent sign stands at most once, between an address and its zone; and
with a colon it is an IPv6 address, or an address of a future version. -/
structure IsCleanHost (host : Text) : Prop where
  ne_nil : host ≠ []
  chars : ∀ c ∈ host,
    isBlank c = false ∧ 0x20 ≤ c.toNat ∧ c.toNat ≠ 0x7F ∧ c ∉ ['/', '?', '#', '@']
  percent : '%' ∈ host → ∃ address zone, host = address ++ '%' :: zone ∧
    '%' ∉ address ∧ ':' ∈ address ∧ zone ≠ [] ∧ '%' ∉ zone
  colon : ':' ∈ host →
    (Host.isIpLiteral host = true ∧ ∃ x, IPv6.parse? host = some x) ∨ host.head? = some 'v'

namespace Resolves

theorem not_blank (h : Resolves hint host) : ∀ c ∈ host, isBlank c = false := by
  refine h.reads.forall_mem (fun _ => Text.not_blank_of_mem_lower) fun c hc => ?_
  have hlegal := h.hint_legal c (mem_of_mem_written hc).1
  exact (Bool.or_eq_false_iff.1 hlegal).1

theorem not_delimiter (h : Resolves hint host) : ∀ c ∈ host, c ∉ ['/', '?', '#', '@'] := by
  refine h.reads.forall_mem ?_ fun c hc => (mem_of_mem_written hc).2
  intro s hs c hc hdelimiter
  have hmem : c ∉ s := fun hmem => hs c hmem hdelimiter
  simp only [List.mem_cons, List.not_mem_nil, or_false] at hdelimiter
  rcases hdelimiter with rfl | rfl | rfl | rfl
  all_goals exact Text.not_mem_lower hmem (by decide) hc

/-- A colon stood in brackets, and what stood there is an address. -/
theorem colon (h : Resolves hint host) (hmem : ':' ∈ host) :
    (Host.isIpLiteral host = true ∧ ∃ x, IPv6.parse? host = some x) ∨ host.head? = some 'v' := by
  have hbracket := Url.bracket_mem_of_colon_mem (h.reads.colon_mem hmem)
  obtain ⟨-, hchecked⟩ := Url.checkBrackets_eq_ok h.brackets hbracket
  rcases Url.checkBracketedHost_eq_ok hchecked with hv | ⟨x, hx⟩
  · exact .inr (h.reads.head?_eq hv)
  · obtain ⟨y, hy⟩ := h.reads.exists_parse? hx
    refine .inl ⟨Host.isIpLiteral_of_parse?_trim (a := .v6 y) ?_, y, hy⟩
    rw [Text.trim_of_not_blank h.not_blank]
    exact IpAddress.parse?_eq_v6_iff.2 hy

theorem isCleanHost (h : Resolves hint host) : IsCleanHost host where
  ne_nil := h.ne_nil
  percent := h.reads.percent
  colon := h.colon
  chars := by
    intro c hc
    have hlegal := h.host_legal c hc
    unfold illegalInHost at hlegal
    rw [Bool.or_eq_false_iff, Bool.or_eq_false_iff, beq_eq_false_iff_ne, beq_eq_false_iff_ne,
      decide_eq_false_iff_not] at hlegal
    exact ⟨h.not_blank c hc, Nat.le_of_not_lt hlegal.1.2, hlegal.2, h.not_delimiter c hc⟩

theorem percent_not_mem_outsideBrackets (h : Resolves hint host) :
    '%' ∉ Url.outsideBrackets (Url.location (Url.authority hint)) := by
  intro hmem
  by_cases hbracket : '[' ∈ Url.location (Url.authority hint)
  · obtain ⟨hplaces, -⟩ := Url.checkBrackets_eq_ok h.brackets hbracket
    rw [Url.outsideBrackets_eq_nil hplaces hbracket] at hmem
    exact absurd hmem List.not_mem_nil
  · -- Without brackets all of the host is outside of them, and it has no colon.
    have hpast := Text.past?_of_not_mem hbracket
    have hwritten : written hint = Url.outsideBrackets (Url.location (Url.authority hint)) := by
      unfold written Url.hostOf Url.outsideBrackets
      rw [hpast]
    rw [← hwritten] at hmem
    refine h.reads.percent_not_mem (fun hcolon => ?_) hmem
    exact hbracket (Url.bracket_mem_of_colon_mem hcolon)

end Resolves

/-- **Hosts are clean.**  A hint that is not empty is refused with an error that carries it, or
resolved to a clean host; that is then read from what is written in its place, and of percent signs
only the one before a zone is decoded.  A percent sign in the location that stands neither in
brackets nor in a port leads to a refusal. -/
theorem resolve_clean (hint : Text) (hne : hint ≠ []) (address : Value) :
    ((∃ fault, resolve (some hint) address = .error ⟨hint, fault⟩) ∨
      ∃ host, resolve (some hint) address = .ok host ∧ IsCleanHost host ∧
        Reads (written hint) host) ∧
    ('%' ∈ Url.outsideBrackets (Url.location (Url.authority hint)) →
      ∃ fault, resolve (some hint) address = .error ⟨hint, fault⟩) := by
  rcases resolve_cases hne address with hrefused | ⟨host, hhost, h⟩
  · exact ⟨.inl hrefused, fun _ => hrefused⟩
  · exact ⟨.inr ⟨host, hhost, h.isCleanHost, h.reads⟩,
      fun hmem => absurd hmem h.percent_not_mem_outsideBrackets⟩

/-- Brackets and percent signs in the user information, an address with a zone that is encoded
twice, and more of both in the port and behind it. -/
def bracketedHint : Text := "https://]u%2F[@[FE80::A%2525Eth0]:8%30/[%41".toList

/-- The host comes clean out of all this; a percent sign in a name is refused. -/
theorem resolve_clean_bracketedHint :
    bracketedHint ≠ [] ∧ resolve (some bracketedHint) .null = .ok "fe80::a%25Eth0".toList ∧
    IsCleanHost "fe80::a%25Eth0".toList ∧
    Reads "FE80::A%2525Eth0".toList "fe80::a%25Eth0".toList ∧
    ∃ fault, resolve (some "https://evil%2Ecom/".toList) .null =
      .error ⟨"https://evil%2Ecom/".toList, fault⟩ := by
  have hne : bracketedHint ≠ [] := by decide
  have hresolve : resolve (some bracketedHint) .null = .ok "fe80::a%25Eth0".toList := by
    decide +kernel
  have hwritten : written bracketedHint = "FE80::A%2525Eth0".toList := by decide +kernel
  rcases (resolve_clean bracketedHint hne .null).1 with
    ⟨fault, hfault⟩ | ⟨host, hhost, hclean, hreads⟩
  · rw [hresolve] at hfault
    cases hfault
  · rw [hresolve] at hhost
    cases hhost
    rw [hwritten] at hreads
    exact ⟨hne, hresolve, hclean, hreads,
      (resolve_clean "https://evil%2Ecom/".toList (by decide) .null).2 (by decide +kernel)⟩

end Endpoint

end PeerTrust
