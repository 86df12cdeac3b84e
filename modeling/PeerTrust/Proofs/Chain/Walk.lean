import Mathlib.Data.List.Chain
import Mathlib.Data.List.Nodup
import PeerTrust.Chain.Path

/-!
What a walk returns.

A walk is followed step by step, but what it returns can be said without any step: a path without
repetition from its start to a trust anchor, on which each certificate but the last is no anchor
and is followed by the issuer that is chosen for it (`walk_eq_ok_iff`).  The issuer is chosen
without regard to how the walk came there, so there is at most one such path, and a walk that
fails does so because there is none.
-/

namespace PeerTrust.Chain

open X509

variable {C : Type} [X509 C] [DecidableEq C] {anchors presented walked path : List C}
  {current issuer : C}

/-! ## One step -/

/-- A path goes on from `c`, which is no anchor, to the issuer that is chosen for it. -/
def Follows (anchors presented : List C) (c i : C) : Prop :=
  c ∉ anchors ∧ findIssuer? anchors presented c = some i

theorem step_eq_arrived_iff :
    step anchors presented walked current = .arrived ↔ current ∈ anchors := by
  unfold step
  by_cases ha : current ∈ anchors
  · rw [if_pos ha]
    exact ⟨fun _ => ha, fun _ => rfl⟩
  · rw [if_neg ha]
    refine ⟨fun h => ?_, fun h => absurd h ha⟩
    split at h
    · cases h
    · split at h <;> cases h

theorem step_eq_onward_iff :
    step anchors presented walked current = .onward issuer ↔
      Follows anchors presented current issuer ∧ issuer ∉ current :: walked := by
  constructor
  · intro h
    obtain ⟨hanchor, hfind, hnew⟩ := step_eq_onward h
    exact ⟨⟨hanchor, hfind⟩, hnew⟩
  · rintro ⟨⟨hanchor, hfind⟩, hnew⟩
    unfold step
    rw [if_neg hanchor, hfind]
    exact if_neg hnew

theorem step_eq_stuck_iff {fault : PathFault C} :
    step anchors presented walked current = .stuck fault ↔
      current ∉ anchors ∧
        ((findIssuer? anchors presented current = none ∧ fault = .noIssuer current) ∨
          ∃ issuer, findIssuer? anchors presented current = some issuer ∧
            issuer ∈ current :: walked ∧ fault = .cycle issuer) := by
  unfold step
  by_cases ha : current ∈ anchors
  · rw [if_pos ha]
    exact ⟨fun h => (by cases h), fun h => absurd ha h.1⟩
  · rw [if_neg ha]
    cases hfind : findIssuer? anchors presented current with
    | none => simp [ha, eq_comm]
    | some issuer =>
      dsimp only
      by_cases hwalked : issuer ∈ current :: walked
      · rw [if_pos hwalked]
        constructor
        · intro h
          cases h
          exact ⟨ha, .inr ⟨issuer, rfl, hwalked, rfl⟩⟩
        · rintro ⟨-, ⟨hnone, -⟩ | ⟨_, hsome, -, rfl⟩⟩
          · cases hnone
          · rw [Option.some.inj hsome]
      · rw [if_neg hwalked]
        refine ⟨fun h => (by cases h), ?_⟩
        rintro ⟨-, ⟨hnone, -⟩ | ⟨_, hsome, hmem, -⟩⟩
        · cases hnone
        · rw [← Option.some.inj hsome] at hmem
          exact absurd hmem hwalked

theorem walk_of_mem (ha : current ∈ anchors) :
    walk anchors presented walked current = .ok [current] := by
  have hstep : step anchors presented walked current = .arrived := step_eq_arrived_iff.2 ha
  rw [walk]
  split
  · rfl
  · next h => rw [hstep] at h; cases h
  · next h => rw [hstep] at h; cases h

theorem walk_of_follows (hfollows : Follows anchors presented current issuer)
    (hnew : issuer ∉ current :: walked) :
    walk anchors presented walked current =
      (walk anchors presented (current :: walked) issuer).map (current :: ·) := by
  have hstep := step_eq_onward_iff.2 ⟨hfollows, hnew⟩
  rw [walk]
  split
  · next h => rw [hstep] at h; cases h
  · next h => rw [hstep] at h; cases h
  · next next h =>
    obtain rfl : issuer = next := Step.onward.inj (hstep.symm.trans h)
    cases walk anchors presented (current :: walked) issuer <;> rfl

theorem walk_of_stuck {fault : PathFault C}
    (hstep : step anchors presented walked current = .stuck fault) :
    walk anchors presented walked current = .error fault := by
  rw [walk]
  split
  · next h => rw [hstep] at h; cases h
  · next h => rw [hstep] at h; cases h; rfl
  · next h => rw [hstep] at h; cases h

/-- A walk that succeeds has arrived, or has gone on to an issuer and succeeded from there. -/
theorem cases_of_walk_eq_ok (h : walk anchors presented walked current = .ok path) :
    (current ∈ anchors ∧ path = [current]) ∨
      ∃ issuer tail, Follows anchors presented current issuer ∧ issuer ∉ current :: walked ∧
        walk anchors presented (current :: walked) issuer = .ok tail ∧ path = current :: tail := by
  rw [walk] at h
  split at h
  · next hstep =>
    cases h
    exact .inl ⟨step_eq_arrived_iff.1 hstep, rfl⟩
  · cases h
  · next issuer hstep =>
    obtain ⟨hfollows, hnew⟩ := step_eq_onward_iff.1 hstep
    split at h
    · next tail htail =>
      cases h
      exact .inr ⟨issuer, tail, hfollows, hnew, htail, rfl⟩
    · cases h

/-! ## The whole walk -/

/-- What a walk from `current` may return when it has come there by way of `walked`. -/
structure Arrives (anchors presented walked : List C) (current : C) (path : List C) : Prop where
  head : path.head? = some current
  follows : path.IsChain (Follows anchors presented)
  last : ∃ a ∈ anchors, path.getLast? = some a
  nodup : path.Nodup
  fresh : ∀ c ∈ path.tail, c ∉ walked

theorem Arrives.of_mem (ha : current ∈ anchors) :
    Arrives anchors presented walked current [current] where
  head := rfl
  follows := .singleton current
  last := ⟨current, ha, rfl⟩
  nodup := List.nodup_singleton current
  fresh := by simp

/-- A path that arrives can be had one certificate longer at its start.  Freshness from the
longer list of walked certificates is what keeps the new start off the rest of the path. -/
theorem Arrives.cons {rest : List C} (hfollows : Follows anchors presented current issuer)
    (hnew : issuer ∉ current :: walked)
    (h : Arrives anchors presented (current :: walked) issuer rest) :
    Arrives anchors presented walked current (current :: rest) := by
  obtain ⟨tail, rfl⟩ : ∃ tail, rest = issuer :: tail := List.head?_eq_some_iff.1 h.head
  have hfresh : ∀ c ∈ issuer :: tail, c ∉ current :: walked := by
    intro c hc
    rcases List.mem_cons.1 hc with rfl | hc
    · exact hnew
    · exact h.fresh c hc
  refine ⟨rfl, h.follows.cons_cons hfollows, ?_, ?_, ?_⟩
  · rw [List.getLast?_cons_cons]
    exact h.last
  · refine List.nodup_cons.2 ⟨fun hc => ?_, h.nodup⟩
    exact hfresh current hc List.mem_cons_self
  · intro c hc hw
    exact hfresh c hc (List.mem_cons_of_mem current hw)

/-- The converse: behind its start, a path that arrives is one that arrives from there. -/
theorem Arrives.tail {rest : List C}
    (h : Arrives anchors presented walked current (current :: issuer :: rest)) :
    Follows anchors presented current issuer ∧ issuer ∉ current :: walked ∧
      Arrives anchors presented (current :: walked) issuer (issuer :: rest) := by
  obtain ⟨hfollows, hchain⟩ := List.isChain_cons_cons.1 h.follows
  obtain ⟨hnot, hnodup⟩ := List.nodup_cons.1 h.nodup
  have hfresh : ∀ c ∈ issuer :: rest, c ∉ current :: walked := by
    intro c hc hw
    rcases List.mem_cons.1 hw with rfl | hw
    · exact hnot hc
    · exact h.fresh c hc hw
  refine ⟨hfollows, hfresh issuer List.mem_cons_self, rfl, hchain, ?_, hnodup, ?_⟩
  · have := h.last
    rwa [List.getLast?_cons_cons] at this
  · intro c hc
    exact hfresh c (List.mem_cons_of_mem issuer hc)

theorem walk_eq_ok_iff :
    walk anchors presented walked current = .ok path ↔
      Arrives anchors presented walked current path := by
  -- The path, not the steps left, carries the induction: each step takes its first certificate.
  induction path generalizing walked current with
  | nil =>
    refine ⟨fun h => ?_, fun h => nomatch h.head⟩
    rcases cases_of_walk_eq_ok h with ⟨-, h⟩ | ⟨_, _, -, -, -, h⟩ <;> cases h
  | cons c rest ih =>
    constructor
    · intro h
      rcases cases_of_walk_eq_ok h with ⟨ha, h⟩ | ⟨issuer, tail, hfollows, hnew, htail, h⟩
      · cases h
        exact .of_mem ha
      · cases h
        exact (ih.1 htail).cons hfollows hnew
    · intro h
      obtain rfl : c = current := Option.some.inj h.head
      cases rest with
      | nil =>
        obtain ⟨a, ha, hlast⟩ := h.last
        obtain rfl : c = a := Option.some.inj hlast
        exact walk_of_mem ha
      | cons issuer rest =>
        obtain ⟨hfollows, hnew, htail⟩ := h.tail
        rw [walk_of_follows hfollows hnew, ih.2 htail]
        rfl

theorem buildPath_eq_ok_iff {leaf : C} :
    buildPath anchors presented leaf = .ok path ↔ Arrives anchors presented [] leaf path :=
  walk_eq_ok_iff

end PeerTrust.Chain
