import PeerTrust.Proofs.Chain.Commitment

/-!
Which issuer is preferred.

Several certificates may bear the name of an issuer: an authority that changed its key is in the
trust store twice, and a peer may present whatever it likes.  Two things count when one of them is
chosen.  That a candidate verifies the signature comes first, and that it is an anchor comes second.
Only then does the order count in which the certificates are listed.

`Preferred` says this in four cases, each for the time when those before it found nothing, and
`issuer_preference` says that this is what the choice comes to.  The first case does not mention
what the peer presented.  So nothing that a peer adds can take the place of an anchor that signed.
-/

namespace PeerTrust

section First

variable {α : Type} {p : α → Bool} {as : List α} {a : α}

/-- The element is the first in the list, from its start, that has the property. -/
def FirstWith (property : α → Prop) (as : List α) (a : α) : Prop :=
  property a ∧ ∃ before after, as = before ++ a :: after ∧ ∀ b ∈ before, ¬ property b

/-- A search for a property finds the first element that has it. -/
theorem find?_eq_some_iff_firstWith {property : α → Prop} (hp : ∀ a, p a = true ↔ property a) :
    as.find? p = some a ↔ FirstWith property as a := by
  rw [List.find?_eq_some_iff_append]
  simp only [FirstWith, ← hp, Bool.not_eq_true, Bool.not_eq_true']

/-- A search for a property finds nothing where no element has it. -/
theorem find?_eq_none_iff_forall {property : α → Prop} (hp : ∀ a, p a = true ↔ property a) :
    as.find? p = none ↔ ∀ a ∈ as, ¬ property a := by
  simp only [List.find?_eq_none, hp]

end First

namespace Chain

open X509

variable {C : Type} [X509 C] {anchors presented : List C} {c i : C}

/-! ## What is preferred -/

/-- The second certificate bears the name of the issuer of the first. -/
def Names (c i : C) : Prop := subject i = issuer c

/-- The second certificate bears the name of the issuer of the first and verifies its signature. -/
def Signs (c i : C) : Prop := subject i = issuer c ∧ issuedBy c i = true

instance : Decidable (Names c i) := inferInstanceAs (Decidable (subject i = issuer c))

instance : Decidable (Signs c i) :=
  inferInstanceAs (Decidable (subject i = issuer c ∧ issuedBy c i = true))

/-- The certificate that is preferred as the issuer of `c`. -/
inductive Preferred (anchors presented : List C) (c : C) : C → Prop where
  | signingAnchor {i : C} (first : FirstWith (Signs c) anchors i) :
      Preferred anchors presented c i
  | signingPresented {i : C} (none : ∀ a ∈ anchors, ¬ Signs c a)
      (first : FirstWith (fun p => p ≠ c ∧ Signs c p) presented i) :
      Preferred anchors presented c i
  | namedAnchor {i : C} (none : ∀ a ∈ anchors, ¬ Signs c a)
      (none' : ∀ p ∈ presented, ¬ (p ≠ c ∧ Signs c p)) (first : FirstWith (Names c) anchors i) :
      Preferred anchors presented c i
  | namedPresented {i : C} (none : ∀ a ∈ anchors, ¬ Names c a)
      (none' : ∀ p ∈ presented, ¬ (p ≠ c ∧ Signs c p))
      (first : FirstWith (fun p => p ≠ c ∧ Names c p) presented i) :
      Preferred anchors presented c i

/-! ## The choice as a sequence of searches -/

section Choice

variable [DecidableEq C]

/-- The first anchor that verifies the signature. -/
def signingAnchor? (anchors : List C) (c : C) : Option C :=
  anchors.find? fun a => subject a == issuer c && issuedBy c a

/-- The first presented certificate, other than `c` itself, that verifies the signature. -/
def signingPresented? (presented : List C) (c : C) : Option C :=
  presented.find? fun p => p != c && (subject p == issuer c && issuedBy c p)

/-- The first anchor with the right name. -/
def namedAnchor? (anchors : List C) (c : C) : Option C :=
  anchors.find? fun a => subject a == issuer c

/-- The first presented certificate, other than `c` itself, with the right name. -/
def namedPresented? (presented : List C) (c : C) : Option C :=
  presented.find? fun p => p != c && subject p == issuer c

theorem firstIssuer?_eq_searches :
    firstIssuer? anchors presented c =
      (signingAnchor? anchors c).or (signingPresented? presented c) := by
  unfold firstIssuer? signingAnchor? signingPresented?
  rw [List.find?_append, List.find?_filter]
  simp only [Bool.decide_and, Bool.decide_eq_true]

theorem head?_issuerCandidates :
    (issuerCandidates anchors presented c).head? =
      (namedAnchor? anchors c).or (namedPresented? presented c) := by
  rw [issuerCandidates_eq]
  unfold bearing namedAnchor? namedPresented?
  rw [List.head?_append, List.filter_filter, List.head?_filter, List.head?_filter]

theorem findIssuer?_eq_searches :
    findIssuer? anchors presented c =
      ((signingAnchor? anchors c).or (signingPresented? presented c)).or
        ((namedAnchor? anchors c).or (namedPresented? presented c)) := by
  rw [findIssuer?_eq_or, firstIssuer?_eq_searches, head?_issuerCandidates]

theorem findIssuer?_eq_some_iff_preferred :
    findIssuer? anchors presented c = some i ↔ Preferred anchors presented c i := by
  have hnames : ∀ x, (subject x == issuer c) = true ↔ Names c x := fun x => beq_iff_eq
  have hsigns : ∀ x, (subject x == issuer c && issuedBy c x) = true ↔ Signs c x := by
    simp [Signs]
  have hothers {q : C → Bool} {property : C → Prop} (hq : ∀ x, q x = true ↔ property x) :
      ∀ x, (x != c && q x) = true ↔ x ≠ c ∧ property x := by
    simp [hq]
  rw [findIssuer?_eq_searches]
  unfold signingAnchor? signingPresented? namedAnchor? namedPresented?
  simp only [Option.or_eq_some_iff, Option.or_eq_none_iff, find?_eq_some_iff_firstWith hsigns,
    find?_eq_none_iff_forall hsigns, find?_eq_some_iff_firstWith (hothers hsigns),
    find?_eq_none_iff_forall (hothers hsigns), find?_eq_some_iff_firstWith hnames,
    find?_eq_none_iff_forall hnames, find?_eq_some_iff_firstWith (hothers hnames)]
  constructor
  · rintro ((first | ⟨none, first⟩) | ⟨⟨none, none'⟩, (first | ⟨unnamed, first⟩)⟩)
    · exact .signingAnchor first
    · exact .signingPresented none first
    · exact .namedAnchor none none' first
    · exact .namedPresented unnamed none' first
  · rintro (first | ⟨none, first⟩ | ⟨none, none', first⟩ | ⟨unnamed, none', first⟩)
    · exact .inl (.inl first)
    · exact .inl (.inr ⟨none, first⟩)
    · exact .inr ⟨⟨none, none'⟩, .inl first⟩
    · -- An anchor that verifies the signature would bear the name, too.
      have none : ∀ a ∈ anchors, ¬ Signs c a := fun a ha hsigns => unnamed a ha hsigns.1
      exact .inr ⟨⟨none, none'⟩, .inr ⟨unnamed, first⟩⟩

/-- **What verifies is preferred, and then what is trusted.**  No issuer is chosen exactly when
nobody bears its name, the certificate itself excepted.  Otherwise the first anchor that verifies
the signature is chosen, whatever else was presented; where there is none, the first presented
certificate that does; and where there is none of these either, the first anchor that bears the
name, or else the first presented certificate that bears it. -/
theorem issuer_preference (anchors presented : List C) (c : C) :
    (findIssuer? anchors presented c = none ↔
      (∀ a ∈ anchors, ¬ Names c a) ∧ ∀ p ∈ presented, p ≠ c → ¬ Names c p) ∧
    ∀ i, findIssuer? anchors presented c = some i ↔ Preferred anchors presented c i :=
  ⟨findIssuer?_eq_none_iff, fun _ => findIssuer?_eq_some_iff_preferred⟩

end Choice

/-- The root after a change of its key; nothing in the hierarchy is signed with the new one. -/
def rekeyedRoot : Certificate := { rootAuthority with serial := 7, key := "New key".toList }

/-- With the two keys of the root in the store, the one that signed is found, and one with the same
key behind it is not taken instead.  Without it the peer may supply a certificate that verifies; and
when nobody can, the new key is taken for the signer, or nothing at all. -/
theorem issuer_preference_rekeyedRoot :
    findIssuer? [rekeyedRoot, rootAuthority, retiredRoot] [retiredRoot] issuingAuthority =
      some rootAuthority ∧
    findIssuer? [rekeyedRoot] [impostor, retiredRoot, rootAuthority] issuingAuthority =
      some retiredRoot ∧
    findIssuer? [rekeyedRoot] [impostor] issuingAuthority = some rekeyedRoot ∧
    findIssuer? [] [rootAuthority, rekeyedRoot] rootAuthority = some rekeyedRoot ∧
    findIssuer? [] [rootAuthority] rootAuthority = none := by
  refine ⟨?_, ?_, ?_, ?_, ?_⟩
  · apply ((issuer_preference _ _ _).2 _).2
    apply Preferred.signingAnchor
    exact ⟨by decide, [rekeyedRoot], [retiredRoot], rfl, by decide⟩
  · apply ((issuer_preference _ _ _).2 _).2
    apply Preferred.signingPresented (by decide)
    exact ⟨by decide, [impostor], [rootAuthority], rfl, by decide⟩
  · apply ((issuer_preference _ _ _).2 _).2
    apply Preferred.namedAnchor (by decide) (by decide)
    exact ⟨by decide, [], [], rfl, by decide⟩
  · -- The root verifies its own signature, but it is not asked to.
    apply ((issuer_preference _ _ _).2 _).2
    apply Preferred.namedPresented (by decide) (by decide)
    exact ⟨by decide, [rootAuthority], [], rfl, by decide⟩
  · apply (issuer_preference _ _ _).1.2
    decide

end Chain
end PeerTrust
