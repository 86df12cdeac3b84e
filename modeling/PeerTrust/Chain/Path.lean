import PeerTrust.Chain.Issuer

/-!
The path from a leaf to a trust anchor.

From the leaf on, the issuer of the newest certificate is looked up again and again until a trust
anchor is reached.  The choice of an issuer is final: a path that turns out to lead nowhere is an
error, not a reason to go back.  An issuer that the path already holds is a cycle and an error
too, so every step adds a certificate that was not on the path.  All but the last come from what
the peer presented, which is why the walk ends: a step uses up a presented certificate or reaches
an anchor.
-/

namespace PeerTrust.Chain

open X509

/-- Why there is no path. -/
inductive PathFault (C : Type) where
  /-- No certificate bears the name of the issuer of this one. -/
  | noIssuer (certificate : C)
  /-- The issuer to go on with is already on the path. -/
  | cycle (issuer : C)
deriving DecidableEq

/-- What a look at the newest certificate of a path decides. -/
inductive Step (C : Type) where
  /-- It is a trust anchor. -/
  | arrived
  /-- The path cannot go on. -/
  | stuck (fault : PathFault C)
  /-- The path goes on with its issuer. -/
  | onward (issuer : C)
deriving DecidableEq

variable {C : Type} [X509 C] [DecidableEq C]

/-- One step of a walk that has come to `current` by way of the certificates `walked`, the newest
first. -/
def step (anchors presented walked : List C) (current : C) : Step C :=
  if current ∈ anchors then .arrived
  else
    match findIssuer? anchors presented current with
    | none => .stuck (.noIssuer current)
    | some issuer => if issuer ∈ current :: walked then .stuck (.cycle issuer) else .onward issuer

/-! ## The walk ends -/

/-- An upper bound for the steps that remain: the presented certificates that are not yet on the
path, and one more to reach an anchor. -/
def stepsLeft (anchors presented walked : List C) (current : C) : Nat :=
  (presented.filter (· ∉ current :: walked)).length + if current ∈ anchors then 0 else 1

/-- A step goes to an issuer that is not on the path. -/
theorem step_eq_onward {anchors presented walked : List C} {current issuer : C}
    (h : step anchors presented walked current = .onward issuer) :
    current ∉ anchors ∧ findIssuer? anchors presented current = some issuer ∧
      issuer ∉ current :: walked := by
  unfold step at h
  split at h
  · cases h
  · next hanchor =>
    split at h
    · cases h
    · next i hfind =>
      split at h
      · cases h
      · next hnew =>
        cases h
        exact ⟨hanchor, hfind, hnew⟩

omit [X509 C] in
/-- A filter that excludes one more member keeps fewer members. -/
theorem length_filter_not_mem_cons_lt {presented visited : List C} {c : C}
    (hc : c ∈ presented) (hnew : c ∉ visited) :
    (presented.filter (· ∉ c :: visited)).length < (presented.filter (· ∉ visited)).length := by
  have hsub : presented.filter (· ∉ c :: visited) =
      (presented.filter (· ∉ visited)).filter (· ≠ c) := by
    rw [List.filter_filter]
    exact List.filter_congr fun x _ => by simp
  rw [hsub]
  exact List.length_filter_lt_length_iff_exists.2
    ⟨c, List.mem_filter.2 ⟨hc, by simpa using hnew⟩, by simp⟩

omit [X509 C] in
/-- A filter that excludes more keeps no more members. -/
theorem length_filter_not_mem_cons_le (presented visited : List C) (c : C) :
    (presented.filter (· ∉ c :: visited)).length ≤ (presented.filter (· ∉ visited)).length := by
  have hsub : presented.filter (· ∉ c :: visited) =
      (presented.filter (· ∉ visited)).filter (· ≠ c) := by
    rw [List.filter_filter]
    exact List.filter_congr fun x _ => by simp
  rw [hsub]
  exact List.length_filter_le _ _

/-- Each step leaves fewer steps to go. -/
theorem stepsLeft_lt {anchors presented walked : List C} {current issuer : C}
    (h : step anchors presented walked current = .onward issuer) :
    stepsLeft anchors presented (current :: walked) issuer <
      stepsLeft anchors presented walked current := by
  obtain ⟨hanchor, hfind, hnew⟩ := step_eq_onward h
  have hmem := (mem_issuerCandidates.1 (mem_of_findIssuer? hfind)).1
  unfold stepsLeft
  rw [if_neg hanchor]
  by_cases hi : issuer ∈ anchors
  · rw [if_pos hi]
    have := length_filter_not_mem_cons_le presented (current :: walked) issuer
    omega
  · rw [if_neg hi]
    have hp : issuer ∈ presented := by
      rcases hmem with ha | ⟨hp, -⟩
      · exact absurd ha hi
      · exact hp
    have := length_filter_not_mem_cons_lt hp hnew
    omega

/-! ## The walk -/

/-- The rest of the path, from `current` on, of a walk that has come there by way of `walked`. -/
def walk (anchors presented walked : List C) (current : C) : Except (PathFault C) (List C) :=
  match _h : step anchors presented walked current with
  | .arrived => .ok [current]
  | .stuck fault => .error fault
  | .onward issuer =>
    match walk anchors presented (current :: walked) issuer with
    | .ok rest => .ok (current :: rest)
    | .error fault => .error fault
termination_by stepsLeft anchors presented walked current
decreasing_by exact stepsLeft_lt _h

/-- The path from a leaf to a trust anchor, by way of certificates that the peer presented. -/
def buildPath (anchors presented : List C) (leaf : C) : Except (PathFault C) (List C) :=
  walk anchors presented [] leaf

end PeerTrust.Chain
