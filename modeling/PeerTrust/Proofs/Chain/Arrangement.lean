import PeerTrust.Proofs.Chain.Rounds

/-!
In what order a peer may send its certificates.

The presented certificates are looked through once for every issuer, and each time only those that
bear the issuer's name are looked at.  So the order matters among certificates of one holder, where
the first that verifies a signature is chosen, and nowhere else.  Two lists in which every holder
has the same certificates in the same order (`SameBearers`) are as good as one list: every round of
the walk decides the same, hence the whole walk does, down to the error in which it ends, and the
later passes see nothing but the path.

Where all holders are different, no order matters at all, and a peer may shuffle its chain
(`sameBearers_of_perm`).
-/

namespace PeerTrust.Chain

open X509

section SameBearers

variable {C : Type} [X509 C] {presented presented' presented'' : List C} {c d : C}

/-! ## Lists that differ between holders only -/

/-- Every holder has the same certificates in both lists, in the same order. -/
def SameBearers (presented presented' : List C) : Prop :=
  ∀ name, bearing name presented = bearing name presented'

theorem SameBearers.trans (h : SameBearers presented presented')
    (h' : SameBearers presented' presented'') : SameBearers presented presented'' := fun name =>
  (h name).trans (h' name)

theorem SameBearers.cons (h : SameBearers presented presented') (c : C) :
    SameBearers (c :: presented) (c :: presented') := by
  intro name
  have hrest := h name
  unfold bearing at hrest ⊢
  rw [List.filter_cons, List.filter_cons, hrest]

/-- Neighbours of different holders may change places. -/
theorem SameBearers.swap (h : subject c ≠ subject d) (rest : List C) :
    SameBearers (c :: d :: rest) (d :: c :: rest) := by
  intro name
  unfold bearing
  by_cases hc : subject c = name
  · have hd : subject d ≠ name := fun heq => h (hc.trans heq.symm)
    simp [hc, hd]
  · simp [List.filter_cons, hc]

/-- If all holders are different, the certificates may be shuffled. -/
theorem sameBearers_of_perm (hperm : presented.Perm presented')
    (h : presented.Pairwise fun c d => subject c ≠ subject d) :
    SameBearers presented presented' := by
  -- A shuffle is made of exchanges of neighbours, and leaves the holders different.
  induction hperm with
  | nil => exact fun _ => rfl
  | cons c _ ih => exact (ih h.of_cons).cons c
  | swap c d rest => exact .swap (List.rel_of_pairwise_cons h List.mem_cons_self) rest
  | trans hfirst _ ih ih' => exact (ih h).trans (ih' (hfirst.pairwise h fun hne => hne.symm))

end SameBearers

/-! ## The walk -/

section Walk

variable {C : Type} [X509 C] [DecidableEq C] {anchors presented presented' walked : List C}
  {leaf current : C} {n : Nat} {outcome : Except (PathFault C) (List C)}

theorem SameBearers.findIssuer?_eq (h : SameBearers presented presented') (anchors : List C)
    (c : C) : findIssuer? anchors presented c = findIssuer? anchors presented' c := by
  unfold findIssuer?
  rw [issuerCandidates_eq, issuerCandidates_eq, h (issuer c)]

theorem SameBearers.step_eq (h : SameBearers presented presented') (anchors walked : List C)
    (current : C) :
    step anchors presented walked current = step anchors presented' walked current := by
  unfold step
  rw [h.findIssuer?_eq]

theorem SameBearers.reaches (h : SameBearers presented presented')
    (hreaches : Reaches anchors presented leaf n walked current) :
    Reaches anchors presented' leaf n walked current := by
  induction hreaches with
  | start => exact .start
  | onward _ round ih =>
    rw [h.step_eq] at round
    exact ih.onward round

theorem SameBearers.ends (h : SameBearers presented presented')
    (hends : Ends anchors presented leaf n outcome) : Ends anchors presented' leaf n outcome := by
  cases hends with
  | arrived reaches round =>
    rw [h.step_eq] at round
    exact .arrived (h.reaches reaches) round
  | stuck reaches round =>
    rw [h.step_eq] at round
    exact .stuck (h.reaches reaches) round

theorem SameBearers.buildPath_eq (h : SameBearers presented presented') (anchors : List C)
    (leaf : C) : buildPath anchors presented leaf = buildPath anchors presented' leaf := by
  obtain ⟨n, hends⟩ := exists_ends_buildPath anchors presented leaf
  exact (h.ends hends).eq_buildPath

theorem SameBearers.verify_eq (h : SameBearers presented presented') (anchors : List C)
    (now : Instant) (leaf : C) :
    verify anchors now (leaf :: presented) = verify anchors now (leaf :: presented') := by
  rw [verify, verify, h.buildPath_eq]

/-- **Only the order among certificates of one holder matters.**  When every holder has the same
presented certificates in the same order, the same path or the same fault comes of the walk, and
the same outcome of the verification at any instant.  In particular the presented certificates may
come in any order when all their holders are different. -/
theorem verify_arrangement (anchors : List C) (leaf : C) (presented presented' : List C)
    (h : (∀ name, bearing name presented = bearing name presented') ∨
      presented.Perm presented' ∧ presented.Pairwise fun c d => subject c ≠ subject d) :
    buildPath anchors presented leaf = buildPath anchors presented' leaf ∧
      ∀ now, verify anchors now (leaf :: presented) = verify anchors now (leaf :: presented') := by
  have hsame : SameBearers presented presented' := by
    rcases h with hbearing | ⟨hperm, hdistinct⟩
    · exact hbearing
    · exact sameBearers_of_perm hperm hdistinct
  exact ⟨hsame.buildPath_eq anchors leaf, fun now => hsame.verify_eq anchors now leaf⟩

end Walk

/-- A certificate for an authority elsewhere may stand anywhere, whether or not there are two for
the issuing authority; the server is verified, and later on it has expired. -/
theorem verify_arrangement_bridge :
    verify [rootAuthority] ⟨50⟩ [server, impostor, issuingAuthority, bridgeAuthority] = .ok () ∧
    verify [rootAuthority] ⟨50⟩ [server, bridgeAuthority, impostor, issuingAuthority] = .ok () ∧
    verify [rootAuthority] ⟨200⟩ [server, issuingAuthority, bridgeAuthority] =
      .error (.expired server) ∧
    verify [rootAuthority] ⟨200⟩ [server, bridgeAuthority, issuingAuthority] =
      .error (.expired server) := by
  have hsame : SameBearers [impostor, issuingAuthority, bridgeAuthority]
      [bridgeAuthority, impostor, issuingAuthority] :=
    ((SameBearers.swap (by decide) []).cons impostor).trans (.swap (by decide) [issuingAuthority])
  have hverified : verify [rootAuthority] ⟨50⟩
      [server, impostor, issuingAuthority, bridgeAuthority] = .ok () := by
    decide +kernel
  have hexpired : verify [rootAuthority] ⟨200⟩ [server, issuingAuthority, bridgeAuthority] =
      .error (.expired server) := by
    decide +kernel
  refine ⟨hverified, ?_, hexpired, ?_⟩
  · rw [← (verify_arrangement [rootAuthority] server _ _ (.inl hsame)).2, hverified]
  · rw [← (verify_arrangement [rootAuthority] server _ _
      (.inr ⟨.swap _ _ [], by decide⟩)).2, hexpired]

-- Of two certificates of the issuing authority the first is chosen, in date or not.
example :
    verify [rootAuthority] ⟨50⟩
        [server, issuingAuthority, { issuingAuthority with notAfter := ⟨10⟩ }] = .ok () ∧
    verify [rootAuthority] ⟨50⟩
        [server, { issuingAuthority with notAfter := ⟨10⟩ }, issuingAuthority] =
      .error (.expired { issuingAuthority with notAfter := ⟨10⟩ }) := by
  decide +kernel

end PeerTrust.Chain
