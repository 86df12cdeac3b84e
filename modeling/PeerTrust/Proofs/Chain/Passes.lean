import Mathlib.Data.List.Chain
import PeerTrust.Chain.Verify

/-!
What the passes over a path establish.

Each pass is a sequence of checks, and it passes exactly when all of them do
(`forM_eq_ok_iff`).  The passes index the certificates in their own ways: the first runs over all
of them, the second over what stands between the two ends, the third over the neighbours.
`checkPath_eq_ok_iff` says the three again by neighbours on the path, where the leaf has position 0
and the certificate at position `i + 1` has `i` certificates between itself and the leaf.
-/

namespace PeerTrust

/-! ## Sequences of checks -/

theorem andThen_eq_ok_iff {ε : Type} {x y : Except ε Unit} :
    (do x; y) = .ok () ↔ x = .ok () ∧ y = .ok () := by
  cases x with
  | error e => exact ⟨nofun, fun h => nomatch h.1⟩
  | ok u => exact ⟨fun h => ⟨rfl, h⟩, fun h => h.2⟩

theorem forM_eq_ok_iff {ε α : Type} {check : α → Except ε Unit} {as : List α} :
    as.forM check = .ok () ↔ ∀ a ∈ as, check a = .ok () := by
  induction as with
  | nil => exact ⟨nofun, fun _ => rfl⟩
  | cons a as ih =>
    have hcons : (a :: as).forM check = (do check a; as.forM check) := rfl
    rw [hcons, andThen_eq_ok_iff, ih, List.forall_mem_cons]

theorem andThen_eq_error_iff {ε : Type} {x y : Except ε Unit} {e : ε} :
    (do x; y) = .error e ↔ x = .error e ∨ x = .ok () ∧ y = .error e := by
  cases x with
  | error e' =>
    refine ⟨fun h => .inl h, ?_⟩
    rintro (h | ⟨h, -⟩)
    · exact h
    · cases h
  | ok u =>
    refine ⟨fun h => .inr ⟨rfl, h⟩, ?_⟩
    rintro (h | ⟨-, h⟩)
    · cases h
    · exact h

/-- A sequence of checks fails with what its first failing check says. -/
theorem forM_eq_error_iff {ε α : Type} {check : α → Except ε Unit} {as : List α} {e : ε} :
    as.forM check = .error e ↔
      ∃ (i : Nat) (a : α), as[i]? = some a ∧ check a = .error e ∧
        ∀ j b, j < i → as[j]? = some b → check b = .ok () := by
  induction as with
  | nil =>
    refine ⟨fun h => (by cases h), ?_⟩
    rintro ⟨i, a, hi, -⟩
    cases hi
  | cons first as ih =>
    have hcons : (first :: as).forM check = (do check first; as.forM check) := rfl
    rw [hcons, andThen_eq_error_iff, ih]
    constructor
    · rintro (hfirst | ⟨hfirst, i, a, hi, ha, hbefore⟩)
      · exact ⟨0, first, rfl, hfirst, fun j b hj => absurd hj (Nat.not_lt_zero j)⟩
      · refine ⟨i + 1, a, hi, ha, ?_⟩
        rintro (_ | j) b hj hb
        · cases hb
          exact hfirst
        · exact hbefore j b (Nat.lt_of_succ_lt_succ hj) hb
    · rintro ⟨_ | i, a, hi, ha, hbefore⟩
      · cases hi
        exact .inl ha
      · refine .inr ⟨hbefore 0 first (Nat.succ_pos i) rfl, i, a, hi, ha, ?_⟩
        intro j b hj hb
        exact hbefore (j + 1) b (Nat.succ_lt_succ hj) hb

namespace Chain

open X509

variable {C : Type} [X509 C] {now : Instant} {path : List C} {c d : C} {i depth : Nat}

/-! ## Single checks -/

/-- The instant lies in the time of validity, both ends included. -/
def ValidAt (now : Instant) (c : C) : Prop := notBefore c ≤ now ∧ now ≤ notAfter c

instance : Decidable (ValidAt now c) :=
  inferInstanceAs (Decidable (notBefore c ≤ now ∧ now ≤ notAfter c))

/-- The certificate says of itself that it may issue others and that `depth` authorities may stand
below it. -/
def MayIssue (c : C) (depth : Nat) : Prop :=
  ∃ e limit, extensions c = some e ∧ e.basicConstraints = some ⟨true, limit⟩ ∧
    ∀ m, limit = some m → depth ≤ m

theorem checkValidity_eq_ok_iff : checkValidity now c = .ok () ↔ ValidAt now c := by
  unfold checkValidity ValidAt
  -- The check compares the other way round, and instants are totally ordered.
  have hbefore : ¬ now < notBefore c ↔ notBefore c ≤ now := Int.not_lt
  have hafter : ¬ notAfter c < now ↔ now ≤ notAfter c := Int.not_lt
  rw [← hbefore, ← hafter]
  by_cases hb : now < notBefore c
  · rw [if_pos hb]
    exact ⟨nofun, fun h => absurd hb h.1⟩
  · rw [if_neg hb]
    by_cases ha : notAfter c < now
    · rw [if_pos ha]
      exact ⟨nofun, fun h => absurd ha h.2⟩
    · rw [if_neg ha]
      exact ⟨fun _ => ⟨hb, ha⟩, fun _ => rfl⟩

theorem checkAuthority_eq_ok_iff : checkAuthority c depth = .ok () ↔ MayIssue c depth := by
  unfold checkAuthority MayIssue
  constructor
  · intro h
    split at h
    · cases h
    · next e he =>
      split at h
      · next hbasic => exact ⟨e, none, he, hbasic, nofun⟩
      · next limit hbasic =>
        refine ⟨e, some limit, he, hbasic, ?_⟩
        rintro m ⟨⟩
        by_contra hdepth
        rw [if_neg hdepth] at h
        cases h
      · cases h
  · rintro ⟨e, limit, he, hbasic, hlimit⟩
    rw [he]
    dsimp only
    rw [hbasic]
    cases limit with
    | none => rfl
    | some m => exact if_pos (hlimit m rfl)

theorem checkSignature_eq_ok_iff : checkSignature c d = .ok () ↔ issuedBy c d = true := by
  unfold checkSignature
  by_cases h : issuedBy c d
  · rw [if_pos h]
    exact ⟨fun _ => h, fun _ => rfl⟩
  · rw [if_neg h]
    exact ⟨nofun, fun h' => absurd h' h⟩

/-! ## Neighbours on a path -/

section Neighbours

variable {C : Type} {path : List C} {c d : C} {i depth : Nat}

/-- On the path, `c` stands at position `i` and `d` right behind it. -/
def Neighbours (path : List C) (i : Nat) (c d : C) : Prop :=
  path[i]? = some c ∧ path[i + 1]? = some d

theorem Neighbours.exists_before (h : Neighbours path (i + 1) c d) :
    ∃ b, Neighbours path i b c := by
  obtain ⟨hlt, -⟩ := List.getElem?_eq_some_iff.1 h.1
  exact ⟨path.get ⟨i, Nat.lt_of_succ_lt hlt⟩, List.getElem?_eq_getElem _, h.1⟩

theorem isChain_iff_neighbours {R : C → C → Prop} :
    path.IsChain R ↔ ∀ i c d, Neighbours path i c d → R c d := by
  rw [List.isChain_iff_getElem]
  constructor
  · rintro h i c d ⟨hc, hd⟩
    obtain ⟨hi, rfl⟩ := List.getElem?_eq_some_iff.1 hd
    obtain ⟨_, rfl⟩ := List.getElem?_eq_some_iff.1 hc
    exact h i hi
  · intro h i hi
    exact h i _ _ ⟨List.getElem?_eq_getElem _, List.getElem?_eq_getElem hi⟩

/-- What stands between the ends of a path has both a predecessor and a successor on it, and comes
with the number of those before it. -/
theorem getElem?_authorities :
    (authorities path)[i]? = some (c, depth) ↔ depth = i ∧ ∃ d, Neighbours path (i + 1) c d := by
  unfold authorities Neighbours
  -- The tail without its last element has the positions from 1 to the last but one.
  rw [List.getElem?_zipIdx, Option.map_eq_some_iff]
  simp only [List.getElem?_dropLast, List.getElem?_tail, List.length_tail, Nat.zero_add,
    Prod.mk.injEq]
  constructor
  · rintro ⟨c', hc, rfl, rfl⟩
    split at hc
    · next hlt => exact ⟨rfl, _, hc, List.getElem?_eq_getElem (by omega)⟩
    · cases hc
  · rintro ⟨rfl, d, hc, hd⟩
    obtain ⟨hlt, -⟩ := List.getElem?_eq_some_iff.1 hd
    refine ⟨c, ?_, rfl, rfl⟩
    rw [if_pos (by omega)]
    exact hc

theorem mem_authorities_iff :
    (c, depth) ∈ authorities path ↔ ∃ d, Neighbours path (depth + 1) c d := by
  rw [List.mem_iff_getElem?]
  constructor
  · rintro ⟨i, hi⟩
    obtain ⟨rfl, hneighbours⟩ := getElem?_authorities.1 hi
    exact hneighbours
  · intro hneighbours
    exact ⟨depth, getElem?_authorities.2 ⟨rfl, hneighbours⟩⟩

theorem mem_links_iff : (c, d) ∈ links path ↔ ∃ i, Neighbours path i c d := by
  unfold links Neighbours
  rw [List.mem_iff_getElem?]
  refine exists_congr fun i => ?_
  rw [List.getElem?_zip_eq_some, List.getElem?_tail]

end Neighbours

/-! ## All passes -/

theorem forM_checkValidity_eq_ok_iff :
    path.forM (checkValidity now) = .ok () ↔ ∀ c ∈ path, ValidAt now c := by
  rw [forM_eq_ok_iff]
  exact forall₂_congr fun c _ => checkValidity_eq_ok_iff

theorem forM_checkAuthority_eq_ok_iff :
    ((authorities path).forM fun (c, depth) => checkAuthority c depth) = .ok () ↔
      ∀ c depth, (c, depth) ∈ authorities path → MayIssue c depth := by
  rw [forM_eq_ok_iff, Prod.forall]
  exact forall₃_congr fun c depth _ => checkAuthority_eq_ok_iff

theorem forM_checkSignature_eq_ok_iff :
    ((links path).forM fun (c, d) => checkSignature c d) = .ok () ↔
      ∀ c d, (c, d) ∈ links path → issuedBy c d = true := by
  rw [forM_eq_ok_iff, Prod.forall]
  exact forall₃_congr fun c d _ => checkSignature_eq_ok_iff

theorem checkPath_eq_ok_iff :
    checkPath now path = .ok () ↔
      (∀ c ∈ path, ValidAt now c) ∧
      (∀ depth c d, Neighbours path (depth + 1) c d → MayIssue c depth) ∧
      ∀ i c d, Neighbours path i c d → issuedBy c d = true := by
  unfold checkPath
  rw [andThen_eq_ok_iff, andThen_eq_ok_iff, forM_checkValidity_eq_ok_iff,
    forM_checkAuthority_eq_ok_iff, forM_checkSignature_eq_ok_iff]
  refine and_congr_right fun _ => and_congr ?_ ?_
  · constructor
    · intro h depth c d hneighbours
      exact h c depth (mem_authorities_iff.2 ⟨d, hneighbours⟩)
    · intro h c depth hmem
      obtain ⟨d, hneighbours⟩ := mem_authorities_iff.1 hmem
      exact h depth c d hneighbours
  · constructor
    · intro h i c d hneighbours
      exact h c d (mem_links_iff.2 ⟨i, hneighbours⟩)
    · intro h c d hmem
      obtain ⟨i, hneighbours⟩ := mem_links_iff.1 hmem
      exact h i c d hneighbours

end Chain

end PeerTrust
