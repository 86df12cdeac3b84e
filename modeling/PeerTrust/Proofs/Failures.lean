import PeerTrust.Proofs.Stages

/-!
The failures of a validation.

Whoever validates a peer is told to expect three failures: the hint is malformed, the certificate
does not name the host, or the chain is not valid.  Whatever a verifier fails with becomes one of
them, and so does whatever is wrong with the contents of the leaf.  What does not is a peer that
sent no certificate where one should be: the session is asked for the chain before anything that
is looked at, and the failure of its parser comes out as it is, whatever the policy and whether or
not there is a verifier (`validate_failures`).
-/

namespace PeerTrust

/-! ## What a session parses -/

section Sessions

variable {C : Type} {encodings : List (Encoded C)} {fault : Unparsable}

/-- What the peer sent, as far as the session looks at it: the leaf by itself counts only where
the transport tells no chain. -/
def Session.sent : Session C → List (Encoded C)
  | parsed chain => chain.map .certificate
  | live [] leaf => leaf.toList
  | live (c :: cs) _ => c :: cs

/-- One piece of garbage is enough, wherever it stands. -/
theorem mapM_parse_eq_error_iff :
    encodings.mapM Encoded.parse = .error fault ↔ .garbage ∈ encodings := by
  induction encodings with
  | nil => simp [pure, Except.pure]
  | cons encoding encodings ih =>
    rw [List.mapM_cons, List.mem_cons, ← ih]
    cases encoding with
    | garbage => exact iff_of_true rfl (.inl rfl)
    | certificate c =>
      cases encodings.mapM Encoded.parse <;>
        simp [Encoded.parse, bind, Except.bind, pure, Except.pure]

theorem mapM_parse_certificate (chain : List C) :
    (chain.map Encoded.certificate).mapM Encoded.parse = .ok chain := by
  induction chain with
  | nil => rfl
  | cons c cs ih =>
    rw [List.map_cons, List.mapM_cons, ih]
    rfl

theorem Session.peerChain_eq_mapM (session : Session C) :
    session.peerChain = session.sent.mapM Encoded.parse := by
  cases session with
  | parsed chain => exact (mapM_parse_certificate chain).symm
  | live chain leaf => cases chain <;> rfl

theorem Session.peerChain_eq_error_iff {session : Session C} :
    session.peerChain = .error fault ↔ .garbage ∈ session.sent := by
  rw [Session.peerChain_eq_mapM, mapM_parse_eq_error_iff]

end Sessions

/-! ## Documented failures -/

section Documented

variable {ε : Type} {fault : PeerFault ε}

/-- The failure is reported as one of the three that callers are told to expect, however the errors
of the verifier are reported. -/
def PeerFault.IsDocumented (fault : PeerFault ε) : Prop :=
  ∀ errorReport : ε → Report,
    (fault.report errorReport).category ∈
      [.malformedHint, .hostnameMismatch, .chainValidation]

theorem PeerFault.isDocumented_iff :
    fault.IsDocumented ↔ ∀ unparsable, fault ≠ .session unparsable := by
  constructor
  · rintro hdocumented unparsable rfl
    have hvalue : Category.value ∈ [.malformedHint, .hostnameMismatch, .chainValidation] :=
      hdocumented fun _ => .plain .value none
    exact absurd hvalue (by decide)
  · intro hparsed errorReport
    cases fault with
    | hint fault => exact List.mem_cons_self
    | session unparsable => exact absurd rfl (hparsed unparsable)
    | hostname fault => exact List.mem_cons_of_mem _ List.mem_cons_self
    | chain host refusal =>
      exact List.mem_cons_of_mem _ (List.mem_cons_of_mem _ List.mem_cons_self)

end Documented

/-! ## Whole validations -/

section Validations

variable {σ C ε : Type} [X509 C] {v : Validator (StateM σ) C ε}
  {peerChain : StateM σ (Except Unparsable (List C))} {hint : Option Text} {address : Value}
  {s : σ} {host : Text}

theorem validate_of_malformed {fault : MalformedHint}
    (h : Endpoint.resolve hint address = .error fault) :
    v.validate peerChain hint address s = (.error (.hint fault), s) := by
  unfold Validator.validate
  rw [h]
  rfl

theorem validate_of_resolved (h : Endpoint.resolve hint address = .ok host) :
    v.validate peerChain hint address s =
      match (peerChain s).1 with
      | .error unparsable => (.error (.session unparsable), (peerChain s).2)
      | .ok chain =>
        match v.policy.evaluate host (Validator.presentedIdentities v.policy chain) with
        | .error mismatch => (.error (.hostname mismatch), (peerChain s).2)
        | .ok () => v.verifyChain host chain (peerChain s).2 := by
  unfold Validator.validate
  rw [h]
  simp only [bind, StateT.bind]
  rcases peerChain s with ⟨answer, t⟩
  cases answer with
  | error unparsable => rfl
  | ok chain =>
    dsimp only
    cases v.policy.evaluate host (Validator.presentedIdentities v.policy chain) <;> rfl

omit [X509 C] in
/-- The last stage fails for the chain or not at all. -/
theorem verifyChain_ne_session (chain : List C) (unparsable : Unparsable) :
    (v.verifyChain host chain s).1 ≠ .error (.session unparsable) := by
  unfold Validator.verifyChain
  intro h
  cases hverifier : v.verifier with
  | none =>
    rw [hverifier] at h
    cases h
  | some verify =>
    rw [hverifier] at h
    cases chain with
    | nil => cases h
    | cons leaf rest =>
      simp only [bind, StateT.bind] at h
      generalize verify (leaf :: rest) s = run at h
      obtain ⟨answer, t⟩ := run
      cases answer <;> cases h

theorem validate_eq_session_iff {unparsable : Unparsable} :
    (v.validate peerChain hint address s).1 = .error (.session unparsable) ↔
      (∃ host, Endpoint.resolve hint address = .ok host) ∧ (peerChain s).1 = .error unparsable := by
  constructor
  · intro houtcome
    cases h : Endpoint.resolve hint address with
    | error fault =>
      rw [validate_of_malformed h] at houtcome
      cases houtcome
    | ok host =>
      refine ⟨⟨host, rfl⟩, ?_⟩
      rw [validate_of_resolved h] at houtcome
      cases hchain : (peerChain s).1 with
      | error unparsable' => rfl
      | ok chain =>
        rw [hchain] at houtcome
        dsimp only at houtcome
        split at houtcome
        · cases houtcome
        · exact absurd houtcome (verifyChain_ne_session chain unparsable)
  · rintro ⟨⟨host, h⟩, hchain⟩
    rw [validate_of_resolved h, hchain]

/-- **The failures of a validation.**  Whatever policy, verifier, session, hint and address there
are, a validation succeeds or fails in one of the three documented ways, unless there is a host and
the session cannot parse what the peer sent.  Exactly then the failure is that of the parser,
which says nothing about itself and is none of the three, and nobody else has been asked.  A session
fails in this way exactly when garbage stands anywhere in what it looks at. -/
theorem validate_failures (v : Validator (StateM σ) C ε)
    (peerChain : StateM σ (Except Unparsable (List C))) (hint : Option Text) (address : Value)
    (s : σ) :
    ((∀ fault, (v.validate peerChain hint address s).1 = .error fault → fault.IsDocumented) ↔
      ¬ ((∃ host, Endpoint.resolve hint address = .ok host) ∧
        ∃ unparsable, (peerChain s).1 = .error unparsable)) ∧
    (∀ host unparsable, Endpoint.resolve hint address = .ok host →
      (peerChain s).1 = .error unparsable →
      v.validate peerChain hint address s = (.error (.session unparsable), (peerChain s).2) ∧
      ∀ errorReport : ε → Report,
        (PeerFault.session unparsable).report errorReport = .plain .value none) ∧
    ∀ session : Session C,
      (∃ unparsable, session.peerChain = .error unparsable) ↔ .garbage ∈ session.sent := by
  refine ⟨⟨?_, ?_⟩, ?_, fun session => ?_⟩
  · rintro hdocumented ⟨hhost, unparsable, hchain⟩
    have hfault := hdocumented _ (validate_eq_session_iff.2 ⟨hhost, hchain⟩)
    exact PeerFault.isDocumented_iff.1 hfault unparsable rfl
  · intro hparsed fault houtcome
    rw [PeerFault.isDocumented_iff]
    rintro unparsable rfl
    obtain ⟨hhost, hchain⟩ := validate_eq_session_iff.1 houtcome
    exact hparsed ⟨hhost, unparsable, hchain⟩
  · intro host unparsable hhost hchain
    refine ⟨?_, fun _ => rfl⟩
    rw [validate_of_resolved hhost, hchain]
  · constructor
    · rintro ⟨unparsable, hsession⟩
      exact Session.peerChain_eq_error_iff.1 hsession
    · intro hgarbage
      exact ⟨⟨⟩, Session.peerChain_eq_error_iff.2 hgarbage⟩

end Validations

/-- A peer that sent garbage in the place of its certificate. -/
def garbageSession : Session Certificate := .live [.garbage] none

/-- The failure of the parser comes out of a strict validation without a verifier, and it is not
documented. -/
theorem garbage_failure_escapes :
    ((⟨⟨.strict⟩, none⟩ : Validator (StateM Unit) Certificate String).validate
        (pure garbageSession.peerChain) (some "https://svc.internal/".toList) .null ()).1 =
      .error (.session ⟨⟩) ∧
    ¬ (PeerFault.session ⟨⟩ : PeerFault String).IsDocumented := by
  constructor
  · refine validate_eq_session_iff.2 ⟨⟨"svc.internal".toList, by decide +kernel⟩, rfl⟩
  · rw [PeerFault.isDocumented_iff]
    exact fun h => h ⟨⟩ rfl

end PeerTrust
