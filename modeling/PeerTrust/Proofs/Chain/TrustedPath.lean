import Mathlib.Data.List.Chain
import Mathlib.Data.List.Nodup
import PeerTrust.Certificate.Basic
import PeerTrust.Proofs.Chain.Passes
import PeerTrust.Proofs.Chain.Walk

/-!
What the verification of a chain is worth.

A trusted path is what justifies trust in its first certificate: it ends at an anchor, each
certificate is signed by the next and valid, and those between the ends are authorities that the
peer presented.  Nothing in the definition mentions how such a path is looked for.
`exists_trustedPath_of_verify` says that a chain is verified only on the strength of such a path.

The proof joins the two halves of the verification.  Names, presence and the absence of
repetitions come from the walk, and everything else comes from the passes, because the walk may
have gone on to a candidate whose signature does not verify.
-/

namespace PeerTrust.Chain

open X509

section Paths

variable {C : Type} [X509 C] {anchors presented path : List C} {now : Instant} {leaf : C}

/-- A path on which the leaf is trusted at an instant.  The certificate at position `i + 1` has `i`
authorities between itself and the leaf, and those that have a neighbour behind them were
presented. -/
structure TrustedPath (anchors presented : List C) (now : Instant) (leaf : C)
    (path : List C) : Prop where
  head : path.head? = some leaf
  last : ∃ a ∈ anchors, path.getLast? = some a
  nodup : path.Nodup
  presented : ∀ i c d, Neighbours path (i + 1) c d → c ∈ presented
  named : ∀ i c d, Neighbours path i c d → issuer c = subject d
  issued : ∀ i c d, Neighbours path i c d → issuedBy c d = true
  valid : ∀ c ∈ path, ValidAt now c
  authority : ∀ i c d, Neighbours path (i + 1) c d → MayIssue c i

/-- No certificate before the last is an anchor. -/
def FirstAnchorLast (anchors path : List C) : Prop :=
  ∀ i c d, Neighbours path i c d → c ∉ anchors

/-- The checks of the passes are the part of a trusted path that does not depend on where its
certificates come from. -/
theorem TrustedPath.checkPath (h : TrustedPath anchors presented now leaf path) :
    checkPath now path = .ok () :=
  checkPath_eq_ok_iff.2 ⟨h.valid, h.authority, h.issued⟩

/-- More anchors and more presented certificates leave a trusted path trusted. -/
theorem TrustedPath.mono {anchors' presented' : List C}
    (h : TrustedPath anchors presented now leaf path) (ha : anchors ⊆ anchors')
    (hp : presented ⊆ presented') : TrustedPath anchors' presented' now leaf path := by
  refine { h with last := ?_, presented := ?_ }
  · obtain ⟨a, hmem, hlast⟩ := h.last
    exact ⟨a, ha hmem, hlast⟩
  · intro i c d hneighbours
    exact hp (h.presented i c d hneighbours)

end Paths

/-! ## Soundness -/

section Soundness

variable {C : Type} [X509 C] [DecidableEq C] {anchors presented path : List C} {now : Instant}
  {leaf : C}

/-- A chosen issuer bears the right name, and comes from the anchors or from the peer. -/
theorem Follows.mem {c i : C} (h : Follows anchors presented c i) :
    (i ∈ anchors ∨ i ∈ presented ∧ i ≠ c) ∧ subject i = issuer c :=
  mem_issuerCandidates.1 (mem_of_findIssuer? h.2)

theorem Arrives.firstAnchorLast {walked : List C}
    (h : Arrives anchors presented walked leaf path) : FirstAnchorLast anchors path :=
  fun i c d hneighbours => (isChain_iff_neighbours.1 h.follows i c d hneighbours).1

/-- What a walk goes through behind its start was chosen as an issuer, and an anchor would have
ended the walk. -/
theorem Arrives.mem_presented {walked : List C} (h : Arrives anchors presented walked leaf path)
    {i : Nat} {c d : C} (hneighbours : Neighbours path (i + 1) c d) : c ∈ presented := by
  obtain ⟨b, hbefore⟩ := hneighbours.exists_before
  rcases (isChain_iff_neighbours.1 h.follows i b c hbefore).mem.1 with ha | ⟨hp, -⟩
  · exact absurd ha (h.firstAnchorLast (i + 1) c d hneighbours)
  · exact hp

theorem Arrives.issuer_eq_subject {walked : List C} (h : Arrives anchors presented walked leaf path)
    {i : Nat} {c d : C} (hneighbours : Neighbours path i c d) : issuer c = subject d :=
  (isChain_iff_neighbours.1 h.follows i c d hneighbours).mem.2.symm

theorem Arrives.trustedPath (h : Arrives anchors presented [] leaf path)
    (hcheck : checkPath now path = .ok ()) : TrustedPath anchors presented now leaf path := by
  obtain ⟨hvalid, hauthority, hissued⟩ := checkPath_eq_ok_iff.1 hcheck
  refine ⟨h.head, h.last, h.nodup, ?_, ?_, hissued, hvalid, hauthority⟩
  · intro i c d hneighbours
    exact h.mem_presented hneighbours
  · intro i c d hneighbours
    exact h.issuer_eq_subject hneighbours

theorem verify_cons_eq_ok_iff :
    verify anchors now (leaf :: presented) = .ok () ↔
      ∃ path, Arrives anchors presented [] leaf path ∧ checkPath now path = .ok () := by
  rw [verify]
  constructor
  · intro h
    split at h
    · cases h
    · next path hbuild => exact ⟨path, buildPath_eq_ok_iff.1 hbuild, h⟩
  · rintro ⟨path, harrives, hcheck⟩
    rw [buildPath_eq_ok_iff.2 harrives]
    exact hcheck

/-- **Soundness.**  A chain is verified only if its first certificate stands at the start of a
trusted path through certificates that follow it in the chain, and the first anchor on that path is
its end. -/
theorem exists_trustedPath_of_verify (anchors : List C) (now : Instant) (chain : List C)
    (h : verify anchors now chain = .ok ()) :
    ∃ leaf presented path, chain = leaf :: presented ∧
      TrustedPath anchors presented now leaf path ∧ FirstAnchorLast anchors path := by
  cases chain with
  | nil => cases h
  | cons leaf presented =>
    obtain ⟨path, harrives, hcheck⟩ := verify_cons_eq_ok_iff.1 h
    exact ⟨leaf, presented, path, rfl, harrives.trustedPath hcheck, harrives.firstAnchorLast⟩

end Soundness

/-! ## A small hierarchy

Every holder has the key of its own name, unless said otherwise, and signs with it. -/

/-- A certificate that `authority` signed for `holder`, valid from instant 0 to instant `last`. -/
def certificateFor (holder authority : String) (serial last : Int)
    (constraints : Option BasicConstraints) : Certificate where
  subject := ⟨[[⟨.commonName, holder.toList⟩]]⟩
  issuer := ⟨[[⟨.commonName, authority.toList⟩]]⟩
  key := holder.toList
  signer := authority.toList
  serial := serial
  notBefore := ⟨0⟩
  notAfter := ⟨last⟩
  extensions := ⟨constraints, none⟩
  damaged := false

/-- The root of the hierarchy. -/
def rootAuthority : Certificate := certificateFor "Root" "Root" 1 100 (some ⟨true, none⟩)

/-- The authority below the root, under which there may be no other. -/
def issuingAuthority : Certificate := certificateFor "Issuing" "Root" 2 100 (some ⟨true, some 0⟩)

/-- It has the name of the issuing authority, but not its key. -/
def impostor : Certificate := { issuingAuthority with serial := 3, key := "Impostor".toList }

/-- A server under the issuing authority. -/
def server : Certificate := certificateFor "Server" "Issuing" 4 100 none

/-- The path from the server through the issuing authority to the root is trusted. -/
theorem trustedPath_server :
    TrustedPath [rootAuthority] [issuingAuthority] ⟨50⟩ server
      [server, issuingAuthority, rootAuthority] where
  head := rfl
  last := ⟨rootAuthority, List.mem_singleton_self _, rfl⟩
  nodup := by decide
  presented := by
    rintro (_ | _ | i) c d ⟨hc, hd⟩
    · cases hc
      exact List.mem_singleton_self _
    · cases hd
    · cases hd
  named := by
    rintro (_ | _ | i) c d ⟨hc, hd⟩
    · cases hc
      cases hd
      rfl
    · cases hc
      cases hd
      rfl
    · cases hd
  issued := by
    rintro (_ | _ | i) c d ⟨hc, hd⟩
    · cases hc
      cases hd
      rfl
    · cases hc
      cases hd
      rfl
    · cases hd
  valid := by decide
  authority := by
    rintro (_ | _ | i) c d ⟨hc, hd⟩
    · cases hc
      exact ⟨_, some 0, rfl, rfl, fun _ _ => Nat.zero_le _⟩
    · cases hd
    · cases hd

/-- The impostor stands before the issuing authority, the server once more between them, and the
root at the end. -/
theorem exists_trustedPath_server :
    verify [rootAuthority] ⟨50⟩ [server, impostor, server, issuingAuthority, rootAuthority] =
        .ok () ∧
      ∃ leaf presented path,
        [server, impostor, server, issuingAuthority, rootAuthority] = leaf :: presented ∧
          TrustedPath [rootAuthority] presented ⟨50⟩ leaf path ∧
          FirstAnchorLast [rootAuthority] path := by
  have hverify : verify [rootAuthority] ⟨50⟩
      [server, impostor, server, issuingAuthority, rootAuthority] = .ok () := by
    decide +kernel
  exact ⟨hverify, exists_trustedPath_of_verify _ _ _ hverify⟩

end PeerTrust.Chain
