import Mathlib.Data.List.Dedup
import Mathlib.Data.List.Perm.Subperm
import PeerTrust.Proofs.Chain.TrustedPath

/-!
How long a walk takes, and what it can end in.

A walk goes on in rounds.  A round looks for the issuer of the newest certificate and either adds
it or gives up; there is none at a trust anchor.  Nothing counts the rounds.  That they come to an
end is due to three things: the newest certificate is no anchor when a round starts, an issuer that
is on the walk already is refused before it is added, and a certificate is no candidate for its own
issuer unless it is an anchor.  So what a round adds is an anchor, and the last thing to be added,
or a presented certificate that was not there before (`Reaches.le_length_dedup`).

`buildPath_ends` puts together what follows: a bound on the rounds by the number of different
presented certificates, and for each of the three ends what it says about the certificates.
-/

namespace PeerTrust.Chain

open X509

variable {C : Type} [X509 C] [DecidableEq C] {anchors presented walked : List C} {leaf current : C}
  {n : Nat} {fault : PathFault C} {outcome : Except (PathFault C) (List C)}

/-! ## Rounds -/

/-- After `n` rounds the walk from `leaf` has come to `current`, by way of `walked`, the newest
first. -/
inductive Reaches (anchors presented : List C) (leaf : C) : Nat → List C → C → Prop where
  | start : Reaches anchors presented leaf 0 [] leaf
  | onward {n : Nat} {walked : List C} {current issuer : C}
      (earlier : Reaches anchors presented leaf n walked current)
      (round : step anchors presented walked current = .onward issuer) :
      Reaches anchors presented leaf (n + 1) (current :: walked) issuer

/-- The walk from `leaf` has this outcome after `n` rounds.  At an anchor it ends without a further
round; a round that gives up counts. -/
inductive Ends (anchors presented : List C) (leaf : C) :
    Nat → Except (PathFault C) (List C) → Prop where
  | arrived {n : Nat} {walked : List C} {current : C}
      (reaches : Reaches anchors presented leaf n walked current)
      (round : step anchors presented walked current = .arrived) :
      Ends anchors presented leaf n (.ok (current :: walked).reverse)
  | stuck {n : Nat} {walked : List C} {current : C} {fault : PathFault C}
      (reaches : Reaches anchors presented leaf n walked current)
      (round : step anchors presented walked current = .stuck fault) :
      Ends anchors presented leaf (n + 1) (.error fault)

/-! ## What is on the walk -/

theorem Reaches.nodup (h : Reaches anchors presented leaf n walked current) :
    (current :: walked).Nodup := by
  induction h with
  | start => exact List.nodup_singleton leaf
  | onward earlier round ih =>
    obtain ⟨-, -, hnew⟩ := step_eq_onward round
    exact List.nodup_cons.2 ⟨hnew, ih⟩

/-- The walk would have ended at an anchor. -/
theorem Reaches.not_mem_anchors (h : Reaches anchors presented leaf n walked current) :
    ∀ c ∈ walked, c ∉ anchors := by
  induction h with
  | start => exact fun c hc => absurd hc List.not_mem_nil
  | onward earlier round ih =>
    obtain ⟨hanchor, -, -⟩ := step_eq_onward round
    exact List.forall_mem_cons.2 ⟨hanchor, ih⟩

/-- Each round has added one certificate to the leaf, an anchor or a presented one. -/
theorem Reaches.exists_added (h : Reaches anchors presented leaf n walked current) :
    ∃ added, current :: walked = added ++ [leaf] ∧ added.length = n ∧
      ∀ c ∈ added, c ∈ anchors ∨ c ∈ presented := by
  induction h with
  | start => exact ⟨[], rfl, rfl, fun c hc => absurd hc List.not_mem_nil⟩
  | @onward n walked current issuer earlier round ih =>
    obtain ⟨added, hwalk, hlength, hmem⟩ := ih
    obtain ⟨-, hfind, -⟩ := step_eq_onward round
    have hissuer : issuer ∈ anchors ∨ issuer ∈ presented :=
      (mem_issuerCandidates.1 (mem_of_findIssuer? hfind)).1.imp_right And.left
    refine ⟨issuer :: added, ?_, ?_, List.forall_mem_cons.2 ⟨hissuer, hmem⟩⟩
    · rw [hwalk, List.cons_append]
    · rw [List.length_cons, hlength]

/-- Until it comes to an anchor, a walk uses up a different presented certificate in every
round. -/
theorem Reaches.le_length_dedup (h : Reaches anchors presented leaf n walked current)
    (hanchor : current ∉ anchors) : n ≤ presented.dedup.length := by
  have hnodup := h.nodup
  have hnot : ∀ c ∈ current :: walked, c ∉ anchors :=
    List.forall_mem_cons.2 ⟨hanchor, h.not_mem_anchors⟩
  obtain ⟨added, hwalk, rfl, hmem⟩ := h.exists_added
  rw [hwalk] at hnodup hnot
  have hadded : added.Nodup := hnodup.sublist (List.sublist_append_left added [leaf])
  have hsub : added ⊆ presented.dedup := by
    intro c hc
    rw [List.mem_dedup]
    exact (hmem c hc).resolve_left (hnot c (List.mem_append_left [leaf] hc))
  exact (hadded.subperm hsub).length_le

theorem Reaches.le_succ (h : Reaches anchors presented leaf n walked current) :
    n ≤ presented.dedup.length + 1 := by
  cases h with
  | start => exact Nat.zero_le _
  | onward earlier round =>
    -- The certificate before this one was no anchor, whatever this one is.
    obtain ⟨hanchor, -, -⟩ := step_eq_onward round
    exact Nat.succ_le_succ (earlier.le_length_dedup hanchor)

theorem Ends.le_succ (h : Ends anchors presented leaf n outcome) :
    n ≤ presented.dedup.length + 1 := by
  cases h with
  | arrived reaches round => exact reaches.le_succ
  | stuck reaches round =>
    obtain ⟨hanchor, -⟩ := step_eq_stuck_iff.1 round
    exact Nat.succ_le_succ (reaches.le_length_dedup hanchor)

/-! ## The outcome -/

/-- What remains of the walk decides about all of it. -/
theorem Reaches.buildPath_eq (h : Reaches anchors presented leaf n walked current) :
    buildPath anchors presented leaf =
      (walk anchors presented walked current).map (walked.reverse ++ ·) := by
  induction h with
  | start =>
    show walk anchors presented [] leaf = _
    cases walk anchors presented [] leaf <;> rfl
  | @onward n walked current issuer earlier round ih =>
    obtain ⟨hfollows, hnew⟩ := step_eq_onward_iff.1 round
    rw [ih, walk_of_follows hfollows hnew]
    cases walk anchors presented (current :: walked) issuer with
    | error fault => rfl
    | ok rest => simp [Except.map]

theorem Ends.eq_buildPath (h : Ends anchors presented leaf n outcome) :
    outcome = buildPath anchors presented leaf := by
  cases h with
  | @arrived _ walked current reaches round =>
    rw [reaches.buildPath_eq, walk_of_mem (step_eq_arrived_iff.1 round), List.reverse_cons]
    rfl
  | stuck reaches round =>
    rw [reaches.buildPath_eq, walk_of_stuck round]
    rfl

/-- From wherever a walk has come it goes on to an end. -/
theorem Reaches.exists_ends (h : Reaches anchors presented leaf n walked current) :
    ∃ m outcome, Ends anchors presented leaf m outcome := by
  induction hleft : stepsLeft anchors presented walked current using Nat.strong_induction_on
    generalizing n walked current with
  | _ left ih =>
    cases hstep : step anchors presented walked current with
    | arrived => exact ⟨_, _, .arrived h hstep⟩
    | stuck fault => exact ⟨_, _, .stuck h hstep⟩
    | onward issuer =>
      have hless : stepsLeft anchors presented (current :: walked) issuer < left :=
        hleft ▸ stepsLeft_lt hstep
      exact ih _ hless (h.onward hstep) rfl

theorem exists_ends_buildPath (anchors presented : List C) (leaf : C) :
    ∃ n, Ends anchors presented leaf n (buildPath anchors presented leaf) := by
  obtain ⟨n, outcome, hends⟩ :=
    (Reaches.start : Reaches anchors presented leaf 0 [] leaf).exists_ends
  refine ⟨n, ?_⟩
  rw [← hends.eq_buildPath]
  exact hends

theorem exists_reaches_of_buildPath_eq_error (h : buildPath anchors presented leaf = .error fault) :
    ∃ n walked current, Reaches anchors presented leaf n walked current ∧
      step anchors presented walked current = .stuck fault := by
  obtain ⟨n, hends⟩ := exists_ends_buildPath anchors presented leaf
  rw [h] at hends
  cases hends with
  | stuck reaches round => exact ⟨_, _, _, reaches, round⟩

/-! ## The three ends -/

/-- A path from the leaf to its only anchor without repetition, on which each certificate names the
holder of the next as its issuer and what stands between the ends was presented. -/
structure SimplePath (anchors presented : List C) (leaf : C) (path : List C) : Prop where
  head : path.head? = some leaf
  last : ∃ a ∈ anchors, path.getLast? = some a
  nodup : path.Nodup
  firstAnchorLast : FirstAnchorLast anchors path
  presented : ∀ i c d, Neighbours path (i + 1) c d → c ∈ presented
  named : ∀ i c d, Neighbours path i c d → issuer c = subject d

theorem Arrives.simplePath {path : List C} (h : Arrives anchors presented [] leaf path) :
    SimplePath anchors presented leaf path where
  head := h.head
  last := h.last
  nodup := h.nodup
  firstAnchorLast := h.firstAnchorLast
  presented := fun _ _ _ hneighbours => h.mem_presented hneighbours
  named := fun _ _ _ hneighbours => h.issuer_eq_subject hneighbours

/-- **Every walk ends.**  Whatever certificates there are, the walk from a leaf has an end, it comes
to it in at most one round more than there are different presented certificates, and it is the
outcome of `buildPath`: a simple path to an anchor; or a certificate on the walk for whose issuer
there is neither an anchor nor another presented certificate of that name; or an issuer that was
chosen although the walk holds it already.  A leaf that is an anchor is its own path. -/
theorem buildPath_ends (anchors presented : List C) (leaf : C) :
    (∃ n, Ends anchors presented leaf n (buildPath anchors presented leaf)) ∧
    (∀ n outcome, Ends anchors presented leaf n outcome →
      n ≤ presented.dedup.length + 1 ∧ outcome = buildPath anchors presented leaf) ∧
    (∀ path, buildPath anchors presented leaf = .ok path →
      SimplePath anchors presented leaf path) ∧
    (∀ c, buildPath anchors presented leaf = .error (.noIssuer c) →
      (∃ n walked, Reaches anchors presented leaf n walked c) ∧
      (∀ a ∈ anchors, subject a ≠ issuer c) ∧ ∀ p ∈ presented, p ≠ c → subject p ≠ issuer c) ∧
    (∀ i, buildPath anchors presented leaf = .error (.cycle i) →
      ∃ n walked current, Reaches anchors presented leaf n walked current ∧
        findIssuer? anchors presented current = some i ∧ i ∈ current :: walked) ∧
    (leaf ∈ anchors → buildPath anchors presented leaf = .ok [leaf]) := by
  refine ⟨exists_ends_buildPath anchors presented leaf, ?_, ?_, ?_, ?_, walk_of_mem⟩
  · intro n outcome hends
    exact ⟨hends.le_succ, hends.eq_buildPath⟩
  · intro path hpath
    exact (buildPath_eq_ok_iff.1 hpath).simplePath
  · intro c hc
    obtain ⟨n, walked, current, hreaches, hstuck⟩ := exists_reaches_of_buildPath_eq_error hc
    obtain ⟨-, ⟨hnone, heq⟩ | ⟨_, -, -, heq⟩⟩ := step_eq_stuck_iff.1 hstuck
    · cases heq
      exact ⟨⟨n, walked, hreaches⟩, findIssuer?_eq_none_iff.1 hnone⟩
    · cases heq
  · intro i hi
    obtain ⟨n, walked, current, hreaches, hstuck⟩ := exists_reaches_of_buildPath_eq_error hi
    obtain ⟨-, ⟨-, heq⟩ | ⟨issuer, hfind, hmem, heq⟩⟩ := step_eq_stuck_iff.1 hstuck
    · cases heq
    · cases heq
      exact ⟨n, walked, current, hreaches, hfind, hmem⟩

/-- The issuing authority as certified by an authority that it has certified itself. -/
def crossSigned : Certificate := certificateFor "Issuing" "Bridge" 7 100 (some ⟨true, none⟩)

/-- The authority on the other side. -/
def bridgeAuthority : Certificate := certificateFor "Bridge" "Issuing" 8 100 (some ⟨true, none⟩)

/-- Between two authorities that have certified each other the walk turns round once and gives up in
its third round, which is as many as two different certificates allow.  A root needs none. -/
theorem buildPath_ends_crossSigned :
    buildPath [rootAuthority] [crossSigned, bridgeAuthority, crossSigned] server =
      .error (.cycle crossSigned) ∧
    Ends [rootAuthority] [crossSigned, bridgeAuthority, crossSigned] server 3
      (.error (.cycle crossSigned)) ∧
    3 ≤ [crossSigned, bridgeAuthority, crossSigned].dedup.length + 1 ∧
    (∃ n walked current,
      Reaches [rootAuthority] [crossSigned, bridgeAuthority, crossSigned] server n walked current ∧
        findIssuer? [rootAuthority] [crossSigned, bridgeAuthority, crossSigned] current =
          some crossSigned ∧ crossSigned ∈ current :: walked) ∧
    buildPath [rootAuthority] [crossSigned] rootAuthority = .ok [rootAuthority] := by
  have hfirst : Reaches [rootAuthority] [crossSigned, bridgeAuthority, crossSigned] server 1
      [server] crossSigned := .onward .start (by decide +kernel)
  have hsecond : Reaches [rootAuthority] [crossSigned, bridgeAuthority, crossSigned] server 2
      [crossSigned, server] bridgeAuthority := hfirst.onward (by decide +kernel)
  have hends : Ends [rootAuthority] [crossSigned, bridgeAuthority, crossSigned] server 3
      (.error (.cycle crossSigned)) := .stuck hsecond (by decide +kernel)
  obtain ⟨-, hbound, -, -, hcycle, -⟩ :=
    buildPath_ends [rootAuthority] [crossSigned, bridgeAuthority, crossSigned] server
  obtain ⟨hle, hbuild⟩ := hbound 3 _ hends
  obtain ⟨-, -, -, -, -, hroot⟩ := buildPath_ends [rootAuthority] [crossSigned] rootAuthority
  exact ⟨hbuild.symm, hends, hle, hcycle _ hbuild.symm, hroot (List.mem_singleton_self _)⟩

end PeerTrust.Chain
