import PeerTrust.Endpoint.Url
import PeerTrust.Proofs.IpAddress.Characters

/-!
A host comes out of the URL that was built around it.

A frame is everything of a URL but its host: scheme, user information, port and tail.  The lemmas
follow the reader cut by cut, in its own order.  Each cut needs one fact about the frame and one
about the host: no colon in the scheme, no character in the authority that ends it, no commercial
at behind the user information.  User information may hold colons and commercial ats of its own,
and the tail may hold anything, because by then the cut in question has been made.
-/

namespace PeerTrust

/-! ## Characters and brackets -/

/-- The character may stand in a hint. -/
def IsUrlChar (c : Char) : Prop := isBlank c = false ∧ 0x20 ≤ c.toNat

instance (c : Char) : Decidable (IsUrlChar c) := inferInstanceAs (Decidable (_ ∧ _))

/-- All printable ASCII characters may. -/
theorem isUrlChar_of_toNat {c : Char} (hlow : 0x21 ≤ c.toNat) (hhigh : c.toNat ≤ 0x7E) :
    IsUrlChar c := by
  have hranges : ∀ r ∈ blankRanges, r.2 < 0x21 ∨ 0x7E < r.1 := by decide
  refine ⟨?_, by omega⟩
  unfold isBlank
  rw [Bool.eq_false_iff, Ne, inRanges_iff]
  rintro ⟨r, hr, hfirst, hlast⟩
  rcases hranges r hr with hbelow | habove <;> omega

theorem isUrlChar_of_val {c : Char} {first last : UInt32} (hfirst : first ≤ c.val)
    (hlast : c.val ≤ last) (hlow : 0x21 ≤ first.toNat) (hhigh : last.toNat ≤ 0x7E) :
    IsUrlChar c :=
  isUrlChar_of_toNat (le_trans hlow (UInt32.le_iff_toNat_le.1 hfirst))
    (le_trans (UInt32.le_iff_toNat_le.1 hlast) hhigh)

/-- The text in square brackets. -/
def Text.bracketed (inner : Text) : Text := '[' :: (inner ++ [']'])

theorem Text.mem_bracketed_iff {c : Char} {inner : Text} :
    c ∈ inner.bracketed ↔ c = '[' ∨ c ∈ inner ∨ c = ']' := by
  unfold bracketed
  rw [List.mem_cons, List.mem_append, List.mem_singleton]

theorem Text.not_mem_bracketed {d : Char} {inner : Text} (hd : d ∉ ['[', ']']) (h : d ∉ inner) :
    d ∉ inner.bracketed := by
  rw [mem_bracketed_iff]
  rintro (rfl | hmem | rfl)
  · exact hd (by decide)
  · exact h hmem
  · exact hd (by decide)

/-! ## Frames -/

/-- What stands around the host of a URL. -/
structure UrlFrame where
  /-- The first letter of the scheme. -/
  initial : Char
  /-- The scheme without its first letter. -/
  schemeRest : Text
  userInfo : Option Text
  port : Option Text
  tail : Text
  isAlpha_initial : initial.isAlpha = true
  schemeRest_chars : ∀ c ∈ schemeRest,
    c.isAlpha = true ∨ c.isDigit = true ∨ c = '+' ∨ c = '-' ∨ c = '.'
  userInfo_chars : ∀ c ∈ userInfo.getD [], c ∉ ['/', '?', '#', '[', ']']
  port_chars : ∀ c ∈ port.getD [], c ∉ ['/', '?', '#', '[', ']', '@']
  tail_start : ∀ c ∈ tail.head?, c = '/' ∨ c = '?' ∨ c = '#'
  isUrlChar : ∀ c ∈ userInfo.getD [] ++ port.getD [] ++ tail, IsUrlChar c

namespace UrlFrame

variable (f : UrlFrame) {host inner : Text}

/-- The scheme. -/
def scheme : Text := f.initial :: f.schemeRest

/-- User information and what separates it from the host. -/
def userPart : Text :=
  match f.userInfo with
  | none => []
  | some userInfo => userInfo ++ ['@']

/-- The port and what separates it from the host. -/
def portPart : Text :=
  match f.port with
  | none => []
  | some port => ':' :: port

/-- The authority around a host. -/
def authority (host : Text) : Text := f.userPart ++ (host ++ f.portPart)

/-- The URL around a host. -/
def url (host : Text) : Text :=
  f.scheme ++ ':' :: '/' :: '/' :: (f.authority host ++ f.tail)

/-- No character of the authority is a delimiter in disguise. -/
def Undisguised (host : Text) : Prop := ∀ c ∈ f.authority host, c ∉ Url.disguisedDelimiters

/-! ## Characters of the parts -/

theorem mem_userPart_cases {c : Char} (h : c ∈ f.userPart) : c = '@' ∨ c ∈ f.userInfo.getD [] := by
  unfold userPart at h
  split at h
  · exact absurd h List.not_mem_nil
  · next userInfo huser =>
    rcases List.mem_append.1 h with hmem | hat
    · rw [huser]
      exact .inr hmem
    · exact .inl (List.mem_singleton.1 hat)

theorem mem_portPart_cases {c : Char} (h : c ∈ f.portPart) : c = ':' ∨ c ∈ f.port.getD [] := by
  unfold portPart at h
  split at h
  · exact absurd h List.not_mem_nil
  · next port hport =>
    rcases List.mem_cons.1 h with hcolon | hmem
    · exact .inl hcolon
    · rw [hport]
      exact .inr hmem

theorem not_mem_userPart {d : Char} (hat : d ≠ '@') (hd : d ∈ ['/', '?', '#', '[', ']']) :
    d ∉ f.userPart := by
  intro h
  rcases f.mem_userPart_cases h with heq | hmem
  · exact hat heq
  · exact f.userInfo_chars d hmem hd

theorem not_mem_portPart {d : Char} (hcolon : d ≠ ':')
    (hd : d ∈ ['/', '?', '#', '[', ']', '@']) : d ∉ f.portPart := by
  intro h
  rcases f.mem_portPart_cases h with heq | hmem
  · exact hcolon heq
  · exact f.port_chars d hmem hd

/-- A delimiter that neither the frame nor the host holds is not in the authority. -/
theorem not_mem_authority {d : Char} (hd : d ∈ ['/', '?', '#', '[', ']']) (hhost : d ∉ host) :
    d ∉ f.authority host := by
  have hall : ∀ e ∈ ['/', '?', '#', '[', ']'],
      e ≠ '@' ∧ e ≠ ':' ∧ e ∈ ['/', '?', '#', '[', ']', '@'] := by simp
  obtain ⟨hat, hcolon, hport⟩ := hall d hd
  unfold authority
  rw [List.mem_append, List.mem_append]
  rintro (huser | hmem | hmem)
  · exact f.not_mem_userPart hat hd huser
  · exact hhost hmem
  · exact f.not_mem_portPart hcolon hport hmem

theorem isUrlChar_scheme : ∀ c ∈ f.scheme, IsUrlChar c := by
  have halpha : ∀ c : Char, c.isAlpha = true → IsUrlChar c := by
    intro c hc
    rcases Bool.or_eq_true_iff.1 hc with hupper | hlower
    · obtain ⟨hfirst, hlast⟩ := of_decide_eq_true hupper
      exact isUrlChar_of_val hfirst hlast (by decide) (by decide)
    · obtain ⟨hfirst, hlast⟩ := Bool.and_eq_true_iff.1 hlower
      exact isUrlChar_of_val (of_decide_eq_true hfirst) (of_decide_eq_true hlast) (by decide)
        (by decide)
  have hdigit : ∀ c : Char, c.isDigit = true → IsUrlChar c := by
    intro c hc
    obtain ⟨hfirst, hlast⟩ := Bool.and_eq_true_iff.1 hc
    exact isUrlChar_of_val (of_decide_eq_true hfirst) (of_decide_eq_true hlast) (by decide)
      (by decide)
  intro c hc
  rcases List.mem_cons.1 hc with rfl | hmem
  · exact halpha _ f.isAlpha_initial
  · rcases f.schemeRest_chars c hmem with h | h | rfl | rfl | rfl
    · exact halpha c h
    · exact hdigit c h
    · decide
    · decide
    · decide

/-- A URL is legal when the host in it is. -/
theorem isUrlChar_url (hhost : ∀ c ∈ host, IsUrlChar c) : ∀ c ∈ f.url host, IsUrlChar c := by
  have hparts := f.isUrlChar
  rw [List.forall_mem_append, List.forall_mem_append] at hparts
  obtain ⟨⟨huser, hport⟩, htail⟩ := hparts
  intro c hc
  unfold url authority at hc
  simp only [List.mem_append, List.mem_cons] at hc
  rcases hc with hscheme | rfl | rfl | rfl | (huserPart | hmem | hportPart) | hmem
  · exact f.isUrlChar_scheme c hscheme
  · decide
  · decide
  · decide
  · rcases f.mem_userPart_cases huserPart with rfl | hmem
    · decide
    · exact huser c hmem
  · exact hhost c hmem
  · rcases f.mem_portPart_cases hportPart with rfl | hmem
    · decide
    · exact hport c hmem
  · exact htail c hmem

/-! ## Scheme and authority -/

theorem isScheme_scheme : Url.isScheme f.scheme = true := by
  have hinitial : Url.isSchemeChar f.initial = true := by
    unfold Url.isSchemeChar
    rw [f.isAlpha_initial]
    rfl
  have hrest : ∀ c ∈ f.schemeRest, Url.isSchemeChar c = true := by
    intro c hc
    unfold Url.isSchemeChar
    simpa only [Bool.or_eq_true, beq_iff_eq, or_assoc] using f.schemeRest_chars c hc
  unfold Url.isScheme scheme
  rw [List.head?_cons, List.all_cons, hinitial, List.all_eq_true.2 hrest]
  exact (Bool.and_true _).trans f.isAlpha_initial

theorem colon_not_mem_scheme : ':' ∉ f.scheme := by
  intro h
  have hall : f.scheme.all Url.isSchemeChar = true := (Bool.and_eq_true_iff.1 f.isScheme_scheme).2
  exact absurd (List.all_eq_true.1 hall ':' h) (by decide)

theorem afterScheme_url :
    Url.afterScheme (f.url host) = '/' :: '/' :: (f.authority host ++ f.tail) := by
  unfold Url.afterScheme url
  rw [Text.past?_append_cons f.colon_not_mem_scheme, Text.upTo_append_cons f.colon_not_mem_scheme]
  dsimp only
  rw [if_pos f.isScheme_scheme]

theorem takeWhile_tail : f.tail.takeWhile (!Url.endsAuthority ·) = [] := by
  have hstart := f.tail_start
  cases htail : f.tail with
  | nil => rfl
  | cons c rest =>
    rw [htail] at hstart
    have hends : Url.endsAuthority c = true := by
      rcases hstart c rfl with rfl | rfl | rfl <;> rfl
    rw [List.takeWhile_cons_of_neg]
    rw [hends]
    exact Bool.false_ne_true

/-- The authority ends where the tail starts. -/
theorem authority_url (hslash : '/' ∉ host) (hquery : '?' ∉ host) (hfragment : '#' ∉ host) :
    Url.authority (f.url host) = f.authority host := by
  have hinside : ∀ c ∈ f.authority host, (!Url.endsAuthority c) = true := by
    intro c hc
    unfold Url.endsAuthority
    rw [Bool.not_eq_true', Bool.or_eq_false_iff, Bool.or_eq_false_iff, beq_eq_false_iff_ne,
      beq_eq_false_iff_ne, beq_eq_false_iff_ne]
    refine ⟨⟨?_, ?_⟩, ?_⟩
    · rintro rfl
      exact f.not_mem_authority (by decide) hslash hc
    · rintro rfl
      exact f.not_mem_authority (by decide) hquery hc
    · rintro rfl
      exact f.not_mem_authority (by decide) hfragment hc
  unfold Url.authority
  rw [f.afterScheme_url]
  -- The two slashes are gone, and all of the authority lies before the tail.
  show (f.authority host ++ f.tail).takeWhile (!Url.endsAuthority ·) = f.authority host
  rw [List.takeWhile_append_of_pos hinside, f.takeWhile_tail, List.append_nil]

/-- User information ends at the last commercial at, and there is none after it. -/
theorem location_authority (hat : '@' ∉ host) :
    Url.location (f.authority host) = host ++ f.portPart := by
  have hrest : '@' ∉ host ++ f.portPart := by
    rw [List.mem_append]
    rintro (hmem | hmem)
    · exact hat hmem
    · exact f.not_mem_portPart (by decide) (by decide) hmem
  -- Commercial ats in the user information come before the one that ends it.
  unfold Url.location authority userPart
  split
  · exact Text.pastLast_of_not_mem hrest
  · rw [List.append_assoc]
    exact Text.pastLast_append_cons hrest

/-! ## The host in its location -/

/-- A host without brackets and colons ends where the port part starts. -/
theorem hostOf_plain (hopen : '[' ∉ host) (hcolon : ':' ∉ host) :
    Url.hostOf (host ++ f.portPart) = host := by
  have hport : '[' ∉ host ++ f.portPart := by
    rw [List.mem_append]
    rintro (hmem | hmem)
    · exact hopen hmem
    · exact f.not_mem_portPart (by decide) (by decide) hmem
  unfold Url.hostOf
  rw [Text.past?_of_not_mem hport]
  show Text.upTo ':' (host ++ f.portPart) = host
  unfold portPart
  split
  · rw [List.append_nil]
    exact Text.upTo_of_not_mem hcolon
  · exact Text.upTo_append_cons hcolon

theorem past?_bracketed : Text.past? '[' (inner.bracketed ++ f.portPart) =
    some (inner ++ ']' :: f.portPart) := by
  unfold Text.bracketed
  rw [List.cons_append, List.append_assoc, List.singleton_append]
  exact Text.past?_append_cons List.not_mem_nil

/-- A bracketed host keeps its colons and ends at the closing bracket. -/
theorem hostOf_bracketed (hclose : ']' ∉ inner) :
    Url.hostOf (inner.bracketed ++ f.portPart) = inner := by
  unfold Url.hostOf
  rw [f.past?_bracketed]
  exact Text.upTo_append_cons hclose

/-! ## Checks -/

theorem checkBrackets_plain (hopen : '[' ∉ host) (hclose : ']' ∉ host) :
    Url.checkBrackets (f.authority host) = .ok () := by
  have ho : (f.authority host).contains '[' = false := by
    rw [List.contains_eq_mem, decide_eq_false_iff_not]
    exact f.not_mem_authority (by decide) hopen
  have hc : (f.authority host).contains ']' = false := by
    rw [List.contains_eq_mem, decide_eq_false_iff_not]
    exact f.not_mem_authority (by decide) hclose
  unfold Url.checkBrackets
  rw [ho, hc]
  rfl

theorem checkBracketPlaces_bracketed (hclose : ']' ∉ inner) :
    Url.checkBracketPlaces (inner.bracketed ++ f.portPart) = .ok () := by
  have hafter : (f.portPart.isEmpty || f.portPart.head? == some ':') = true := by
    unfold portPart
    split <;> rfl
  unfold Url.checkBracketPlaces
  rw [f.past?_bracketed]
  dsimp only
  rw [Text.past?_append_cons hclose, Option.getD_some, hafter]
  rfl

theorem checkBrackets_bracketed (hclose : ']' ∉ inner) (hat : '@' ∉ inner)
    (hinner : Url.checkBracketedHost inner = .ok ()) :
    Url.checkBrackets (f.authority inner.bracketed) = .ok () := by
  have hlocation : Url.location (f.authority inner.bracketed) = inner.bracketed ++ f.portPart :=
    f.location_authority (Text.not_mem_bracketed (by decide) hat)
  have ho : (f.authority inner.bracketed).contains '[' = true := by
    rw [List.contains_eq_mem, decide_eq_true_eq]
    unfold authority Text.bracketed
    exact List.mem_append_right _ (List.mem_append_left _ List.mem_cons_self)
  have hc : (f.authority inner.bracketed).contains ']' = true := by
    rw [List.contains_eq_mem, decide_eq_true_eq]
    unfold authority Text.bracketed
    exact List.mem_append_right _ (List.mem_append_left _ (List.mem_cons_of_mem _
      (List.mem_append_right _ (List.mem_singleton_self _))))
  unfold Url.checkBrackets
  rw [ho, hc, if_pos rfl, if_pos rfl, hlocation, f.checkBracketPlaces_bracketed hclose,
    f.hostOf_bracketed hclose, hinner]
  rfl

theorem checkDelimiters_authority (h : f.Undisguised host) :
    Url.checkDelimiters (f.authority host) = .ok () := by
  have hnone : (f.authority host).any Url.disguisedDelimiters.contains = false := by
    rw [List.any_eq_false]
    intro c hc
    rw [List.contains_eq_mem, decide_eq_true_eq]
    exact h c hc
  unfold Url.checkDelimiters
  rw [hnone]
  rfl

/-! ## The host of the URL -/

/-- A URL around a name has that name as its host. -/
theorem host_url (hdelimiters : ∀ d ∈ ['/', '?', '#', '@', ':', '[', ']'], d ∉ host)
    (h : f.Undisguised host) : Url.host (f.url host) = .ok (Url.lowerHost host) := by
  obtain ⟨hslash, hquery, hfragment, hat, hcolon, hopen, hclose⟩ :
      '/' ∉ host ∧ '?' ∉ host ∧ '#' ∉ host ∧ '@' ∉ host ∧ ':' ∉ host ∧ '[' ∉ host ∧ ']' ∉ host := by
    simpa using hdelimiters
  unfold Url.host
  rw [f.authority_url hslash hquery hfragment]
  dsimp only
  rw [f.checkBrackets_plain hopen hclose, f.checkDelimiters_authority h, f.location_authority hat,
    f.hostOf_plain hopen hcolon]
  rfl

/-- A URL around a bracketed address has that address as its host. -/
theorem host_url_bracketed (hdelimiters : ∀ d ∈ ['/', '?', '#', '@', ']'], d ∉ inner)
    (hinner : Url.checkBracketedHost inner = .ok ()) (h : f.Undisguised inner.bracketed) :
    Url.host (f.url inner.bracketed) = .ok (Url.lowerHost inner) := by
  obtain ⟨hslash, hquery, hfragment, hat, hclose⟩ :
      '/' ∉ inner ∧ '?' ∉ inner ∧ '#' ∉ inner ∧ '@' ∉ inner ∧ ']' ∉ inner := by
    simpa using hdelimiters
  unfold Url.host
  rw [f.authority_url (Text.not_mem_bracketed (by decide) hslash)
    (Text.not_mem_bracketed (by decide) hquery) (Text.not_mem_bracketed (by decide) hfragment)]
  dsimp only
  rw [f.checkBrackets_bracketed hclose hat hinner, f.checkDelimiters_authority h,
    f.location_authority (Text.not_mem_bracketed (by decide) hat), f.hostOf_bracketed hclose]
  rfl

end UrlFrame

end PeerTrust
