import Mathlib.Data.Nat.Find
import PeerTrust.Proofs.Chain.TrustedPath

/-!
What it costs that the choice of an issuer is final.

The walk takes the first certificate that verifies a signature and never comes back to the choice.
So a trusted path need not be enough: when an authority was certified twice under one name and
key, the walk may go on to the copy that has expired and never see the other
(`reissuedRoot_not_verified`).

What is enough, and also needed, is a trusted path that makes the same choices
(`verify_iff_exists_committed`).  The order of the certificates enters through the word "first"
alone, so it is of no consequence where there is only one certificate to choose.
-/

namespace PeerTrust.Chain

open X509

variable {C : Type} [X509 C] [DecidableEq C] {anchors presented path : List C} {now : Instant}
  {leaf c i : C}

/-! ## The first issuer -/

/-- The first certificate, anchors before presented ones, that bears the name of the issuer of `c`
and verifies its signature. -/
def firstIssuer? (anchors presented : List C) (c : C) : Option C :=
  (anchors ++ presented.filter (· != c)).find? fun i => subject i == issuer c && issuedBy c i

/-- The path goes on to the first issuer wherever the walk would go on. -/
def Committed (anchors presented path : List C) : Prop :=
  ∀ i c d, Neighbours path i c d → c ∉ anchors → firstIssuer? anchors presented c = some d

/-- Where the walk would go on, no certificate but the next one on the path is an issuer. -/
def Unambiguous (anchors presented path : List C) : Prop :=
  ∀ i c d, Neighbours path i c d → c ∉ anchors →
    ∀ x ∈ anchors ++ presented, x ≠ c → subject x = issuer c → issuedBy c x = true → x = d

theorem find?_issuerCandidates :
    (issuerCandidates anchors presented c).find? (issuedBy c) =
      firstIssuer? anchors presented c := by
  -- The candidates are filtered by name first; the search asks for the name last.
  have hcomm : (bearing (issuer c) presented).filter (· != c) =
      bearing (issuer c) (presented.filter (· != c)) := by
    unfold bearing
    rw [List.filter_filter, List.filter_filter]
    exact List.filter_congr fun x _ => Bool.and_comm _ _
  rw [issuerCandidates_eq, hcomm]
  unfold firstIssuer?
  unfold bearing
  rw [← List.filter_append, List.find?_filter]
  simp only [Bool.decide_and, Bool.decide_eq_true]

theorem findIssuer?_eq_or :
    findIssuer? anchors presented c =
      (firstIssuer? anchors presented c).or (issuerCandidates anchors presented c).head? := by
  rw [← find?_issuerCandidates]
  rfl

theorem findIssuer?_eq_of_firstIssuer? (h : firstIssuer? anchors presented c = some i) :
    findIssuer? anchors presented c = some i := by
  rw [findIssuer?_eq_or, h]
  rfl

/-- A chosen issuer that verifies the signature is the first that does. -/
theorem firstIssuer?_eq_of_findIssuer? (h : findIssuer? anchors presented c = some i)
    (hissued : issuedBy c i = true) : firstIssuer? anchors presented c = some i := by
  have hmem := mem_of_findIssuer? h
  rw [findIssuer?_eq_or] at h
  cases hfirst : firstIssuer? anchors presented c with
  | some first =>
    rw [hfirst] at h
    exact h
  | none =>
    rw [← find?_issuerCandidates, List.find?_eq_none] at hfirst
    exact absurd hissued (hfirst i hmem)

/-! ## The part of a path that is walked -/

omit [X509 C] [DecidableEq C] in
theorem neighbours_take_iff {k n : Nat} {d : C} :
    Neighbours (path.take n) k c d ↔ k + 1 < n ∧ Neighbours path k c d := by
  unfold Neighbours
  rw [List.getElem?_take, List.getElem?_take, Option.ite_none_right_eq_some,
    Option.ite_none_right_eq_some]
  constructor
  · rintro ⟨⟨-, hc⟩, hlt, hd⟩
    exact ⟨hlt, hc, hd⟩
  · rintro ⟨hlt, hc, hd⟩
    exact ⟨⟨by omega, hc⟩, hlt, hd⟩

omit [DecidableEq C] in
theorem TrustedPath.take {k : Nat} {a : C} (h : TrustedPath anchors presented now leaf path)
    (ha : a ∈ anchors) (hk : path[k]? = some a) :
    TrustedPath anchors presented now leaf (path.take (k + 1)) := by
  refine ⟨?_, ⟨a, ha, ?_⟩, h.nodup.sublist (List.take_sublist _ _), ?_, ?_, ?_, ?_, ?_⟩
  · rw [List.head?_take, if_neg (Nat.succ_ne_zero k)]
    exact h.head
  · rw [List.getLast?_take, if_neg (Nat.succ_ne_zero k), Nat.add_sub_cancel, hk]
    rfl
  · intro i c d hneighbours
    exact h.presented i c d (neighbours_take_iff.1 hneighbours).2
  · intro i c d hneighbours
    exact h.named i c d (neighbours_take_iff.1 hneighbours).2
  · intro i c d hneighbours
    exact h.issued i c d (neighbours_take_iff.1 hneighbours).2
  · intro c hc
    exact h.valid c (List.mem_of_mem_take hc)
  · intro i c d hneighbours
    exact h.authority i c d (neighbours_take_iff.1 hneighbours).2

omit [DecidableEq C] in
/-- A trusted path can be cut after its first anchor. -/
theorem TrustedPath.exists_take (h : TrustedPath anchors presented now leaf path) :
    ∃ k, TrustedPath anchors presented now leaf (path.take (k + 1)) ∧
      FirstAnchorLast anchors (path.take (k + 1)) := by
  have hex : ∃ k : Nat, ∃ a ∈ anchors, path[k]? = some a := by
    obtain ⟨a, ha, hlast⟩ := h.last
    rw [List.getLast?_eq_getElem?] at hlast
    exact ⟨_, a, ha, hlast⟩
  -- The least position of an anchor is where the walk stops.
  classical
  obtain ⟨a, ha, hk⟩ := Nat.find_spec hex
  refine ⟨Nat.find hex, h.take ha hk, ?_⟩
  intro i c d hneighbours hmem
  obtain ⟨hlt, hc, -⟩ := neighbours_take_iff.1 hneighbours
  exact Nat.find_min hex (Nat.lt_of_succ_lt_succ hlt) ⟨c, hmem, hc⟩

theorem Committed.take (h : Committed anchors presented path) (k : Nat) :
    Committed anchors presented (path.take k) :=
  fun i c d hneighbours => h i c d (neighbours_take_iff.1 hneighbours).2

/-- The walk follows a trusted path of its own choices. -/
theorem TrustedPath.arrives (h : TrustedPath anchors presented now leaf path)
    (hfirst : FirstAnchorLast anchors path) (hcommitted : Committed anchors presented path) :
    Arrives anchors presented [] leaf path := by
  refine ⟨h.head, isChain_iff_neighbours.2 ?_, h.last, h.nodup, fun _ _ => List.not_mem_nil⟩
  intro i c d hneighbours
  have hnot : c ∉ anchors := hfirst i c d hneighbours
  exact ⟨hnot, findIssuer?_eq_of_firstIssuer? (hcommitted i c d hneighbours hnot)⟩

/-- A walk whose path turns out to be trusted has never gone on to a certificate that does not
verify. -/
theorem Arrives.committed {walked : List C} (h : Arrives anchors presented walked leaf path)
    (htrusted : TrustedPath anchors presented now leaf path) :
    Committed anchors presented path := by
  intro i c d hneighbours _
  have hfollows : Follows anchors presented c d :=
    isChain_iff_neighbours.1 h.follows i c d hneighbours
  exact firstIssuer?_eq_of_findIssuer? hfollows.2 (htrusted.issued i c d hneighbours)

/-! ## Completeness -/

theorem verify_of_committed (h : TrustedPath anchors presented now leaf path)
    (hcommitted : Committed anchors presented path) :
    verify anchors now (leaf :: presented) = .ok () := by
  obtain ⟨k, htrusted, hfirst⟩ := h.exists_take
  exact verify_cons_eq_ok_iff.2
    ⟨_, htrusted.arrives hfirst (hcommitted.take _), htrusted.checkPath⟩

theorem exists_committed_of_verify (h : verify anchors now (leaf :: presented) = .ok ()) :
    ∃ path, TrustedPath anchors presented now leaf path ∧
      Committed anchors presented path := by
  obtain ⟨path, harrives, hcheck⟩ := verify_cons_eq_ok_iff.1 h
  have htrusted := harrives.trustedPath hcheck
  exact ⟨path, htrusted, harrives.committed htrusted⟩

omit [DecidableEq C] in
/-- Every certificate behind the leaf is an anchor or was presented, and is not the one before. -/
theorem TrustedPath.mem_of_neighbours (h : TrustedPath anchors presented now leaf path) {k : Nat}
    {d : C} (hneighbours : Neighbours path k c d) : d ∈ anchors ++ presented ∧ d ≠ c := by
  obtain ⟨hc, hd⟩ := hneighbours
  obtain ⟨hlt, -⟩ := List.getElem?_eq_some_iff.1 hd
  constructor
  · rw [List.mem_append]
    cases hnext : path[k + 2]? with
    | none =>
      obtain ⟨a, ha, hlast⟩ := h.last
      have hlength : path.length - 1 = k + 1 := by
        have := List.getElem?_eq_none_iff.1 hnext
        omega
      rw [List.getLast?_eq_getElem?, hlength, hd] at hlast
      cases hlast
      exact .inl ha
    | some e => exact .inr (h.presented k d e ⟨hd, hnext⟩)
  · rintro rfl
    have := (List.getElem?_inj hlt h.nodup).1 (hd.trans hc.symm)
    omega

theorem Unambiguous.committed (h : Unambiguous anchors presented path)
    (htrusted : TrustedPath anchors presented now leaf path) :
    Committed anchors presented path := by
  intro k c d hneighbours hnot
  obtain ⟨hmem, hne⟩ := htrusted.mem_of_neighbours hneighbours
  have hcandidate : d ∈ anchors ++ presented.filter (· != c) := by
    rcases List.mem_append.1 hmem with ha | hp
    · exact List.mem_append_left _ ha
    · exact List.mem_append_right _ (List.mem_filter.2 ⟨hp, bne_iff_ne.2 hne⟩)
  have hissuer : (subject d == issuer c && issuedBy c d) = true := by
    rw [Bool.and_eq_true, beq_iff_eq]
    exact ⟨(htrusted.named k c d hneighbours).symm, htrusted.issued k c d hneighbours⟩
  -- The next certificate passes the test, so the search finds one; any it finds is the next.
  unfold firstIssuer?
  cases hfind : (anchors ++ presented.filter (· != c)).find? fun x =>
      subject x == issuer c && issuedBy c x with
  | none => exact absurd hissuer (List.find?_eq_none.1 hfind d hcandidate)
  | some first =>
    have hfirst := List.find?_some hfind
    rw [Bool.and_eq_true, beq_iff_eq] at hfirst
    have hall : first ∈ anchors ++ presented ∧ first ≠ c := by
      rcases List.mem_append.1 (List.mem_of_find?_eq_some hfind) with ha | hp
      · exact ⟨List.mem_append_left _ ha, fun heq => hnot (heq ▸ ha)⟩
      · rw [List.mem_filter, bne_iff_ne] at hp
        exact ⟨List.mem_append_right _ hp.1, hp.2⟩
    rw [h k c d hneighbours hnot first hall.1 hall.2 hfirst.1 hfirst.2]

omit [DecidableEq C] in
theorem Unambiguous.perm {anchors' presented' : List C} (h : Unambiguous anchors presented path)
    (ha : anchors'.Perm anchors) (hp : presented'.Perm presented) :
    Unambiguous anchors' presented' path := by
  intro k c d hneighbours hnot x hx
  exact h k c d hneighbours (fun hmem => hnot (ha.mem_iff.2 hmem)) x ((ha.append hp).mem_iff.1 hx)

/-- **Completeness.**  A chain is verified exactly when its leaf has a trusted path that goes on to
the first issuer everywhere before its first anchor; and when the leaf has a trusted path on which
there is nothing else to choose, the chain is verified whatever the order of the anchors and of the
presented certificates. -/
theorem verify_iff_exists_committed (anchors presented : List C) (now : Instant) (leaf : C) :
    (verify anchors now (leaf :: presented) = .ok () ↔
      ∃ path, TrustedPath anchors presented now leaf path ∧
        Committed anchors presented path) ∧
    ∀ path, TrustedPath anchors presented now leaf path → Unambiguous anchors presented path →
      ∀ anchors' presented', anchors'.Perm anchors → presented'.Perm presented →
        verify anchors' now (leaf :: presented') = .ok () := by
  refine ⟨⟨exists_committed_of_verify, ?_⟩, ?_⟩
  · rintro ⟨path, htrusted, hcommitted⟩
    exact verify_of_committed htrusted hcommitted
  · intro path htrusted hunambiguous anchors' presented' ha hp
    have htrusted' : TrustedPath anchors' presented' now leaf path :=
      htrusted.mono ha.symm.subset hp.symm.subset
    exact verify_of_committed htrusted' ((hunambiguous.perm ha hp).committed htrusted')

/-- The impostor bears the name of the issuing authority too, but it could not have signed, so the
server is verified with the two in either order. -/
theorem server_verified_in_either_order :
    (verify [rootAuthority] ⟨50⟩ [server, issuingAuthority, impostor] = .ok () ↔
      ∃ path, TrustedPath [rootAuthority] [issuingAuthority, impostor] ⟨50⟩ server path ∧
        Committed [rootAuthority] [issuingAuthority, impostor] path) ∧
    TrustedPath [rootAuthority] [issuingAuthority, impostor] ⟨50⟩ server
      [server, issuingAuthority, rootAuthority] ∧
    Unambiguous [rootAuthority] [issuingAuthority, impostor]
      [server, issuingAuthority, rootAuthority] ∧
    verify [rootAuthority] ⟨50⟩ [server, impostor, issuingAuthority] = .ok () := by
  have htrusted : TrustedPath [rootAuthority] [issuingAuthority, impostor] ⟨50⟩ server
      [server, issuingAuthority, rootAuthority] :=
    trustedPath_server.mono (List.Subset.refl _) (by decide)
  have hunambiguous : Unambiguous [rootAuthority] [issuingAuthority, impostor]
      [server, issuingAuthority, rootAuthority] := by
    rintro (_ | _ | k) c d ⟨hc, hd⟩ -
    · cases hc
      cases hd
      decide
    · cases hc
      cases hd
      decide
    · cases hd
  have h := verify_iff_exists_committed [rootAuthority] [issuingAuthority, impostor] ⟨50⟩ server
  exact ⟨h.1, htrusted, hunambiguous, h.2 _ htrusted hunambiguous _ _ (.refl _) (.swap _ _ _)⟩

/-- The root under a certificate that expired after instant 10; its name and its key are the
same. -/
def retiredRoot : Certificate := { rootAuthority with serial := 5, notAfter := ⟨10⟩ }

/-- A trusted path is not enough: the retired certificate of the root verifies the same signatures,
so it is chosen when it comes first, and the valid one is not considered any more. -/
theorem reissuedRoot_not_verified :
    TrustedPath [retiredRoot, rootAuthority] [issuingAuthority] ⟨50⟩ server
        [server, issuingAuthority, rootAuthority] ∧
      verify [retiredRoot, rootAuthority] ⟨50⟩ [server, issuingAuthority] =
        .error (.expired retiredRoot) ∧
      verify [rootAuthority, retiredRoot] ⟨50⟩ [server, issuingAuthority] = .ok () := by
  refine ⟨trustedPath_server.mono (by decide) (List.Subset.refl _), ?_, ?_⟩
  · decide +kernel
  · decide +kernel

end PeerTrust.Chain
