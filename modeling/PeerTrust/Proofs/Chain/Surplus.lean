import PeerTrust.Proofs.Chain.Commitment

/-!
Certificates that nobody needs.

Peers send more than the path to an anchor: their root, certificates of an authority's former key,
one certificate twice.  Each of them is one more candidate for an issuer, and a peer chooses them
freely, so it has to be asked whether they can lead a walk astray that would have arrived.

They cannot when they stand behind the certificates that are needed (`verify_append`).  Two passes
work together here.  The walk by itself does not give the reason: it may go on to a candidate whose
signature does not verify, and such a choice is open to better candidates.  But then the pass over
the signatures refuses the path.  So a verified path was made of first issuers throughout
(`Arrives.committed`), and what is first stays first when something is added at the end.
-/

namespace PeerTrust.Chain

open X509

variable {C : Type} [X509 C] [DecidableEq C] {anchors presented path : List C} {now : Instant}
  {leaf c i : C}

theorem firstIssuer?_append (h : firstIssuer? anchors presented c = some i) (more : List C) :
    firstIssuer? anchors (presented ++ more) c = some i := by
  unfold firstIssuer? at h ⊢
  rw [List.filter_append, ← List.append_assoc, List.find?_append, h]
  rfl

theorem Committed.append (h : Committed anchors presented path) (more : List C) :
    Committed anchors (presented ++ more) path := by
  intro i c d hneighbours hnot
  exact firstIssuer?_append (h i c d hneighbours hnot) more

/-- **Surplus certificates do no harm.**  A chain that is verified stays verified with any further
certificates behind it, and on the strength of the same path. -/
theorem verify_append (anchors presented more : List C) (now : Instant) (leaf : C)
    (h : verify anchors now (leaf :: presented) = .ok ()) :
    verify anchors now (leaf :: (presented ++ more)) = .ok () ∧
      ∃ path, buildPath anchors presented leaf = .ok path ∧
        buildPath anchors (presented ++ more) leaf = .ok path := by
  obtain ⟨path, harrives, hcheck⟩ := verify_cons_eq_ok_iff.1 h
  have htrusted : TrustedPath anchors presented now leaf path := harrives.trustedPath hcheck
  have htrusted' : TrustedPath anchors (presented ++ more) now leaf path :=
    htrusted.mono (List.Subset.refl _) (List.subset_append_left presented more)
  -- The choices on the path are the same, and none of its certificates has become an anchor.
  have harrives' : Arrives anchors (presented ++ more) [] leaf path :=
    htrusted'.arrives harrives.firstAnchorLast ((harrives.committed htrusted).append more)
  refine ⟨verify_cons_eq_ok_iff.2 ⟨path, harrives', hcheck⟩, path, ?_, ?_⟩
  · exact buildPath_eq_ok_iff.2 harrives
  · exact buildPath_eq_ok_iff.2 harrives'

/-- The issuing authority as it was certified for a time that has passed. -/
def formerAuthority : Certificate := { issuingAuthority with serial := 6, notAfter := ⟨10⟩ }

/-- Whatever the peer sends behind the issuing authority. -/
def clutter : List Certificate :=
  [formerAuthority, impostor, server, rootAuthority, issuingAuthority]

/-- Behind the issuing authority there is room for its own former certificate, an impostor, the
server, the root, and the issuing authority once more.  The path is that of the authority alone. -/
theorem verify_append_clutter :
    verify [rootAuthority] ⟨50⟩ [server, issuingAuthority] = .ok () ∧
      verify [rootAuthority] ⟨50⟩ (server :: ([issuingAuthority] ++ clutter)) = .ok () ∧
      buildPath [rootAuthority] [issuingAuthority] server =
        .ok [server, issuingAuthority, rootAuthority] ∧
      buildPath [rootAuthority] ([issuingAuthority] ++ clutter) server =
        .ok [server, issuingAuthority, rootAuthority] := by
  have hverify : verify [rootAuthority] ⟨50⟩ [server, issuingAuthority] = .ok () := by
    decide +kernel
  have hpath : buildPath [rootAuthority] [issuingAuthority] server =
      .ok [server, issuingAuthority, rootAuthority] := by
    decide +kernel
  obtain ⟨hverify', path, hbuilt, hbuilt'⟩ := verify_append _ _ clutter _ _ hverify
  rw [hpath] at hbuilt
  cases hbuilt
  exact ⟨hverify, hverify', hpath, hbuilt'⟩

-- In front of the needed certificate the former one is what the walk goes on to.
example : verify [rootAuthority] ⟨50⟩ [server, formerAuthority, issuingAuthority] =
    .error (.expired formerAuthority) := by
  decide +kernel

end PeerTrust.Chain
