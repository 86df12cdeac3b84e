import PeerTrust.Certificate.Basic

/-!
The choice of an issuer.

Candidates are certificates whose subject is the issuer's name: first the trust anchors, then what
the peer presented, the certificate itself excepted.  Several candidates may bear one name, for
instance after an authority changed its key, so the first one that verifies the signature is
chosen.  When none does, the first candidate is chosen all the same, and the later check of the
signature reports it.

What the peer presented is gone through once and sorted by holder (`Directory`).  To look a name up
in that directory gives the presented certificates that bear the name, in their order
(`Directory.find_ofList`).
-/

namespace PeerTrust.Chain

open X509

/-- The certificates whose holder has this name. -/
def bearing {C : Type} [X509 C] (name : DistinguishedName) (cs : List C) : List C :=
  cs.filter fun c => subject c == name

/-! ## Certificates by holder -/

/-- Certificates sorted by holder, each holder with its certificates. -/
abbrev Directory (C : Type) := List (DistinguishedName × List C)

namespace Directory

variable {C : Type}

/-- The certificates of a holder, none for a holder that is not listed. -/
def find (directory : Directory C) (name : DistinguishedName) : List C :=
  (directory.lookup name).getD []

@[simp] theorem find_nil (name : DistinguishedName) : find ([] : Directory C) name = [] := rfl

@[simp] theorem find_cons (holder name : DistinguishedName) (cs : List C) (rest : Directory C) :
    find ((holder, cs) :: rest) name = if name = holder then cs else find rest name := by
  unfold find
  rw [List.lookup_cons]
  by_cases hname : name = holder
  · rw [if_pos hname, beq_iff_eq.2 hname]
    rfl
  · rw [if_neg hname, beq_eq_false_iff_ne.2 hname]

variable [X509 C]

/-- Puts a certificate behind the others of its holder. -/
def add (directory : Directory C) (c : C) : Directory C :=
  match directory with
  | [] => [(subject c, [c])]
  | (name, cs) :: rest =>
    if subject c = name then (name, cs ++ [c]) :: rest else (name, cs) :: add rest c

/-- The directory of these certificates. -/
def ofList (cs : List C) : Directory C := cs.foldl add []

theorem find_add (directory : Directory C) (c : C) (name : DistinguishedName) :
    (directory.add c).find name = directory.find name ++ if subject c = name then [c] else [] := by
  induction directory with
  | nil => simp [add, eq_comm]
  | cons entry rest ih =>
    obtain ⟨holder, cs⟩ := entry
    unfold add
    by_cases hholder : subject c = holder
    · subst hholder
      by_cases hname : name = subject c <;> simp [hname, eq_comm]
    · by_cases hname : name = holder
      · simp [hholder, hname]
      · simp [hholder, hname, ih]

theorem find_foldl_add (cs : List C) (directory : Directory C) (name : DistinguishedName) :
    (cs.foldl add directory).find name = directory.find name ++ bearing name cs := by
  induction cs generalizing directory with
  | nil => simp [bearing]
  | cons c cs ih =>
    rw [List.foldl_cons, ih, find_add, List.append_assoc]
    by_cases hname : subject c = name <;> simp [bearing, hname]

/-- To look a name up is to search all certificates for it. -/
theorem find_ofList (cs : List C) (name : DistinguishedName) :
    (ofList cs).find name = bearing name cs :=
  find_foldl_add cs [] name

end Directory

/-! ## The choice -/

variable {C : Type} [X509 C] [DecidableEq C]

/-- The certificates that may have issued `c`, those to be preferred first. -/
def issuerCandidates (anchors presented : List C) (c : C) : List C :=
  bearing (issuer c) anchors ++ ((Directory.ofList presented).find (issuer c)).filter (· != c)

/-- The certificate that is taken for the issuer of `c`. -/
def findIssuer? (anchors presented : List C) (c : C) : Option C :=
  let candidates := issuerCandidates anchors presented c
  (candidates.find? (issuedBy c)).or candidates.head?

theorem issuerCandidates_eq (anchors presented : List C) (c : C) :
    issuerCandidates anchors presented c =
      bearing (issuer c) anchors ++ (bearing (issuer c) presented).filter (· != c) := by
  rw [issuerCandidates, Directory.find_ofList]

/-- A candidate is an anchor or was presented, and bears the name of the issuer. -/
theorem mem_issuerCandidates {anchors presented : List C} {c i : C} :
    i ∈ issuerCandidates anchors presented c ↔
      (i ∈ anchors ∨ i ∈ presented ∧ i ≠ c) ∧ subject i = issuer c := by
  rw [issuerCandidates_eq]
  simp only [bearing, List.mem_append, List.mem_filter, beq_iff_eq,
    bne_iff_ne, ne_eq]
  constructor
  · rintro (⟨ha, hs⟩ | ⟨⟨hp, hs⟩, hne⟩)
    · exact ⟨.inl ha, hs⟩
    · exact ⟨.inr ⟨hp, hne⟩, hs⟩
  · rintro ⟨ha | ⟨hp, hne⟩, hs⟩
    · exact .inl ⟨ha, hs⟩
    · exact .inr ⟨⟨hp, hs⟩, hne⟩

/-- The chosen issuer is one of the candidates. -/
theorem mem_of_findIssuer? {anchors presented : List C} {c i : C}
    (h : findIssuer? anchors presented c = some i) :
    i ∈ issuerCandidates anchors presented c := by
  unfold findIssuer? at h
  rcases Option.or_eq_some_iff.1 h with h | ⟨-, h⟩
  · exact List.mem_of_find?_eq_some h
  · exact List.mem_of_head? h

/-- No issuer is chosen exactly when there is no candidate. -/
theorem findIssuer?_eq_none_iff {anchors presented : List C} {c : C} :
    findIssuer? anchors presented c = none ↔
      (∀ a ∈ anchors, subject a ≠ issuer c) ∧ ∀ p ∈ presented, p ≠ c → subject p ≠ issuer c := by
  have hnone : findIssuer? anchors presented c = none ↔
      issuerCandidates anchors presented c = [] := by
    unfold findIssuer?
    rw [Option.or_eq_none_iff, List.head?_eq_none_iff]
    refine ⟨fun h => h.2, fun h => ⟨?_, h⟩⟩
    rw [h]
    rfl
  rw [hnone, List.eq_nil_iff_forall_not_mem]
  simp only [mem_issuerCandidates, not_and]
  constructor
  · intro h
    exact ⟨fun a ha => h a (.inl ha), fun p hp hne => h p (.inr ⟨hp, hne⟩)⟩
  · rintro ⟨hanchors, hpresented⟩ i (ha | ⟨hp, hne⟩)
    · exact hanchors i ha
    · exact hpresented i hp hne

end PeerTrust.Chain
