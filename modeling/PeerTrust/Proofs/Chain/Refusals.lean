import PeerTrust.Proofs.Chain.TrustedPath

/-!
The errors that the verification of a chain ends in.

Whoever asks a verifier is told to expect errors of one family: those caught as
`certificateVerification`.  All failures are reported in that family except one, which comes from
the parser of extensions and passes through the verification as it is.  So the question which
errors a chain can cause is the question when a verification comes to read extensions that cannot
be read.

The passes run one after the other, so it comes to that only behind a path to an anchor on which
every certificate is valid and every authority nearer to the leaf is in order
(`checkPath_eq_unreadable_iff`).  A peer has all of this in its hands except the anchor and the
certificate below it.
-/

namespace PeerTrust.Chain

open X509

variable {C : Type} [X509 C] {now : Instant} {path : List C} {c : C} {depth : Nat}

/-! ## The family of a failure -/

/-- The failure is reported as an error of verification or as a more specific one. -/
def Fault.IsVerificationError (fault : Fault C) : Prop :=
  .certificateVerification ∈ fault.report.category.ancestry

theorem Fault.isVerificationError_iff {fault : Fault C} :
    fault.IsVerificationError ↔ ∀ c, fault ≠ .unreadable c := by
  constructor
  · rintro hfamily c rfl
    have hvalue : Category.certificateVerification ∉ Category.ancestry .value := by decide
    exact hvalue hfamily
  · intro hreadable
    have hchain : Category.certificateVerification ∈ Category.ancestry .certificateChain := by
      decide
    have hexpired : Category.certificateVerification ∈ Category.ancestry .certificateExpired := by
      decide
    cases fault with
    | unreadable c => exact absurd rfl (hreadable c)
    | notYetValid c => exact hexpired
    | expired c => exact hexpired
    | badSignature c => exact List.mem_cons_self
    | empty => exact hchain
    | path fault => exact hchain
    | notAuthority depth => exact hchain
    | pathTooLong depth => exact hchain

/-! ## Where extensions are read -/

theorem checkValidity_ne_unreadable (x : C) : checkValidity now x ≠ .error (.unreadable c) := by
  unfold checkValidity
  split
  · simp
  · split <;> simp

theorem checkSignature_ne_unreadable (x y : C) : checkSignature x y ≠ .error (.unreadable c) := by
  unfold checkSignature
  split <;> simp

theorem checkAuthority_eq_unreadable_iff {x : C} :
    checkAuthority x depth = .error (.unreadable c) ↔ x = c ∧ extensions c = none := by
  unfold checkAuthority
  cases hx : extensions x with
  | none =>
    simp only [Except.error.injEq, Fault.unreadable.injEq]
    refine ⟨?_, fun h => h.1⟩
    rintro rfl
    exact ⟨rfl, hx⟩
  | some e =>
    have hreadable : ¬ (x = c ∧ extensions c = none) := by
      rintro ⟨rfl, hnone⟩
      rw [hx] at hnone
      cases hnone
    refine ⟨fun h => ?_, fun h => absurd h hreadable⟩
    dsimp only at h
    split at h
    · cases h
    · split at h <;> cases h
    · cases h

/-- Extensions that cannot be read are come upon behind the validity of the whole path and behind
every authority nearer to the leaf. -/
theorem checkPath_eq_unreadable_iff :
    checkPath now path = .error (.unreadable c) ↔
      (∀ x ∈ path, ValidAt now x) ∧
      ∃ depth d, Neighbours path (depth + 1) c d ∧ extensions c = none ∧
        ∀ i a b, i < depth → Neighbours path (i + 1) a b → MayIssue a i := by
  unfold checkPath
  rw [andThen_eq_error_iff, andThen_eq_error_iff, forM_checkValidity_eq_ok_iff]
  constructor
  · rintro (hvalidity | ⟨hvalid, hauthority | ⟨-, hsignature⟩⟩)
    · obtain ⟨_, x, -, hx, -⟩ := forM_eq_error_iff.1 hvalidity
      exact absurd hx (checkValidity_ne_unreadable x)
    · refine ⟨hvalid, ?_⟩
      obtain ⟨i, ⟨x, depth⟩, hi, hx, hbefore⟩ := forM_eq_error_iff.1 hauthority
      obtain ⟨rfl, d, hneighbours⟩ := getElem?_authorities.1 hi
      obtain ⟨rfl, hnone⟩ := checkAuthority_eq_unreadable_iff.1 hx
      refine ⟨depth, d, hneighbours, hnone, fun i a b hlt hab => ?_⟩
      exact checkAuthority_eq_ok_iff.1
        (hbefore i (a, i) hlt (getElem?_authorities.2 ⟨rfl, b, hab⟩))
    · obtain ⟨_, ⟨x, y⟩, -, hxy, -⟩ := forM_eq_error_iff.1 hsignature
      exact absurd hxy (checkSignature_ne_unreadable x y)
  · rintro ⟨hvalid, depth, d, hneighbours, hnone, hbefore⟩
    refine .inr ⟨hvalid, .inl ?_⟩
    refine forM_eq_error_iff.2 ⟨depth, (c, depth), getElem?_authorities.2 ⟨rfl, d, hneighbours⟩,
      checkAuthority_eq_unreadable_iff.2 ⟨rfl, hnone⟩, ?_⟩
    rintro i ⟨a, k⟩ hlt hi
    obtain ⟨rfl, b, hab⟩ := getElem?_authorities.1 hi
    exact checkAuthority_eq_ok_iff.2 (hbefore k a b hlt hab)

/-! ## Whole verifications -/

section Verification

variable {C : Type} [X509 C] [DecidableEq C] {anchors presented : List C} {now : Instant}
  {leaf c : C}

/-- The verification of the leaf reads the extensions of `c` and cannot: `c` stands between the
leaf and the anchor of a valid path, with only proper authorities below it. -/
def ReachesUnreadable (anchors presented : List C) (now : Instant) (leaf c : C) : Prop :=
  ∃ path depth d, buildPath anchors presented leaf = .ok path ∧
    (∀ x ∈ path, ValidAt now x) ∧ Neighbours path (depth + 1) c d ∧ extensions c = none ∧
    ∀ i a b, i < depth → Neighbours path (i + 1) a b → MayIssue a i

theorem verify_eq_unreadable_iff :
    verify anchors now (leaf :: presented) = .error (.unreadable c) ↔
      ReachesUnreadable anchors presented now leaf c := by
  unfold ReachesUnreadable
  rw [verify]
  cases hbuild : buildPath anchors presented leaf with
  | error fault => simp
  | ok path =>
    dsimp only
    rw [checkPath_eq_unreadable_iff]
    constructor
    · rintro ⟨hvalid, depth, d, hneighbours, hnone, hbefore⟩
      exact ⟨path, depth, d, rfl, hvalid, hneighbours, hnone, hbefore⟩
    · rintro ⟨_, depth, d, hpath, hvalid, hneighbours, hnone, hbefore⟩
      cases hpath
      exact ⟨hvalid, depth, d, hneighbours, hnone, hbefore⟩

/-- A certificate whose extensions are read was presented by the peer. -/
theorem ReachesUnreadable.mem (h : ReachesUnreadable anchors presented now leaf c) :
    c ∈ presented ∧ extensions c = none := by
  obtain ⟨path, depth, d, hbuild, -, hneighbours, hnone, -⟩ := h
  have harrives : Arrives anchors presented [] leaf path := buildPath_eq_ok_iff.1 hbuild
  exact ⟨harrives.mem_presented hneighbours, hnone⟩

/-- **The errors of a verification.**  Whatever chain is verified, the outcome is success or an
error of the family of verification, unless the verification reaches a presented certificate
between leaf and anchor whose extensions cannot be read.  Exactly then the error of their parser
comes out instead, which is not in the family. -/
theorem verify_error_family (anchors : List C) (now : Instant) (chain : List C) :
    ((∀ fault, verify anchors now chain = .error fault → fault.IsVerificationError) ↔
      ¬ ∃ leaf presented c, chain = leaf :: presented ∧
        ReachesUnreadable anchors presented now leaf c) ∧
    ∀ leaf presented c, chain = leaf :: presented →
      ReachesUnreadable anchors presented now leaf c →
        verify anchors now chain = .error (.unreadable c) ∧
        (Fault.unreadable c).report = .plain .value none ∧
        c ∈ presented ∧ extensions c = none := by
  constructor
  · constructor
    · rintro hfamily ⟨leaf, presented, c, rfl, hreaches⟩
      have hunreadable := hfamily _ (verify_eq_unreadable_iff.2 hreaches)
      exact Fault.isVerificationError_iff.1 hunreadable c rfl
    · intro hnever fault hfault
      rw [Fault.isVerificationError_iff]
      rintro c rfl
      cases chain with
      | nil => cases hfault
      | cons leaf presented =>
        exact hnever ⟨leaf, presented, c, rfl, verify_eq_unreadable_iff.1 hfault⟩
  · rintro leaf presented c rfl hreaches
    exact ⟨verify_eq_unreadable_iff.2 hreaches, rfl, hreaches.mem⟩

end Verification

/-- The issuing authority with extensions that cannot be read. -/
def damagedAuthority : Certificate := { issuingAuthority with damaged := true }

/-- One such authority is enough: the chain is built, and the error of the parser comes out. -/
theorem damagedAuthority_error_escapes :
    verify [rootAuthority] ⟨50⟩ [server, damagedAuthority] = .error (.unreadable damagedAuthority) ∧
      (Fault.unreadable damagedAuthority).report.category = .value ∧
      ¬ (Fault.unreadable damagedAuthority).IsVerificationError := by
  refine ⟨by decide +kernel, rfl, fun hfamily => ?_⟩
  exact Fault.isVerificationError_iff.1 hfamily damagedAuthority rfl

end PeerTrust.Chain
