import Mathlib.Control.Monad.Basic
import Mathlib.Tactic.ByContra
import PeerTrust.Certificate.Basic
import PeerTrust.Validator

/-!
The stages of a validation, in their order.

Which stage decides is as important as what it decides: a verifier that is asked about a peer with
the wrong name has already learnt of it, and a session that is asked although the hint is malformed
has been trusted for nothing.  So the parties to a validation are observed.  Session and verifier
may keep any state of their own, and everything that is asked of them is written down, in the order
in which it is asked.  `validation_stages` gives the outcome, the state in which the parties are
left, and what they were asked, for every policy and with or without a verifier.
-/

namespace PeerTrust

/-! ## The verdict on the name -/

section Names

variable {C : Type} [X509 C] {policy : Policy} {host : Text} {chain : List C}

/-- The policy refuses the host for what the chain presents. -/
def Policy.Refuses (policy : Policy) (host : Text) (chain : List C) : Prop :=
  policy.mode ≠ .allowAll ∧
  ¬ (policy.mode = .defaultAndLocalhost ∧ Host.isLoopback host = true) ∧
  (chain = [] ∨ ∃ leaf rest, chain = leaf :: rest ∧
    (X509.identities leaf).matchesHost (policy.mode == .strict) host = false)

/-- A set without names matches no host. -/
theorem IdentitySet.matchesHost_empty (strict : Bool) (host : Text) :
    IdentitySet.empty.matchesHost strict host = false := by
  have hnone : IdentitySet.empty.candidates = [] := rfl
  unfold IdentitySet.matchesHost
  rw [hnone, List.any_nil, Bool.and_false]

theorem Policy.exempts_eq_false_iff :
    policy.exempts host = false ↔
      policy.mode ≠ .allowAll ∧
        ¬ (policy.mode = .defaultAndLocalhost ∧ Host.isLoopback host = true) := by
  unfold Policy.exempts
  cases hmode : policy.mode <;> simp

/-- What a policy that does not exempt the host finds in the chain. -/
theorem matchesHost_presentedIdentities (hmode : policy.mode ≠ .allowAll) (strict : Bool) :
    (Validator.presentedIdentities policy chain).matchesHost strict host = false ↔
      chain = [] ∨ ∃ leaf rest, chain = leaf :: rest ∧
        (X509.identities leaf).matchesHost strict host = false := by
  cases chain with
  | nil => exact ⟨fun _ => .inl rfl, fun _ => IdentitySet.matchesHost_empty strict host⟩
  | cons leaf rest =>
    rw [Validator.presentedIdentities, if_neg hmode]
    constructor
    · intro h
      exact .inr ⟨leaf, rest, rfl, h⟩
    · rintro (h | ⟨leaf', rest', h, hmatch⟩)
      · cases h
      · cases h
        exact hmatch

theorem accepts_presentedIdentities_iff :
    policy.accepts host (Validator.presentedIdentities policy chain) = false ↔
      policy.Refuses host chain := by
  unfold Policy.accepts Policy.Refuses Policy.isStrict
  rw [Bool.or_eq_false_iff, Policy.exempts_eq_false_iff, and_assoc]
  refine and_congr_right fun hmode => and_congr_right fun _ => ?_
  exact matchesHost_presentedIdentities hmode _

theorem evaluate_of_refuses (h : policy.Refuses host chain) :
    policy.evaluate host (Validator.presentedIdentities policy chain) =
      .error ⟨host, policy.mode,
        Policy.mismatchDetail (Validator.presentedIdentities policy chain)⟩ := by
  unfold Policy.evaluate
  rw [Option.getD_some, accepts_presentedIdentities_iff.2 h]
  rfl

theorem evaluate_of_not_refuses (h : ¬ policy.Refuses host chain) :
    policy.evaluate host (Validator.presentedIdentities policy chain) = .ok () := by
  rw [← accepts_presentedIdentities_iff, Bool.not_eq_false] at h
  exact Policy.evaluate_eq_ok_iff.2 h

end Names

/-! ## Observation -/

/-- What a validation asks of the other parties. -/
inductive Consultation (C : Type) where
  /-- The session is asked for the chain of its peer. -/
  | session
  /-- The verifier is asked about a chain. -/
  | verifier (chain : List C)
deriving DecidableEq

/-- What came of a validation: its outcome, the state of the other parties after it, and what was
asked of them. -/
structure Observation (σ C ε : Type) where
  outcome : Except (PeerFault ε) Unit
  state : σ
  asked : List (Consultation C)

section Observation

variable {σ C ε α : Type}

/-- An action of another party, and the note that it was asked for. -/
def observe (consultation : Consultation C) (action : StateM σ α) :
    StateM (σ × List (Consultation C)) α := fun s =>
  ((action s.1).1, (action s.1).2, s.2 ++ [consultation])

/-- The validator whose verifier is observed. -/
def observedValidator (policy : Policy) (verifier : Option (List C → StateM σ (Except ε Unit))) :
    Validator (StateM (σ × List (Consultation C))) C ε where
  policy := policy
  verifier := verifier.map fun verify chain => observe (.verifier chain) (verify chain)

variable [X509 C]

/-- A validation of the peer of a session whose chain can be obtained, seen from outside. -/
def observation (policy : Policy) (verifier : Option (List C → StateM σ (Except ε Unit)))
    (session : StateM σ (List C)) (hint : Option Text) (address : Value) (s : σ) :
    Observation σ C ε :=
  let peerChain := Except.ok <$> observe .session session
  let run := (observedValidator policy verifier).validate peerChain hint address (s, [])
  ⟨run.1, run.2.1, run.2.2⟩

variable {policy : Policy} {verifier : Option (List C → StateM σ (Except ε Unit))}
  {session : StateM σ (List C)} {hint : Option Text} {address : Value} {s : σ} {host : Text}

omit [X509 C] in
@[simp] theorem observedValidator_policy :
    (observedValidator policy verifier).policy = policy := rfl

theorem observation_of_malformed {fault : MalformedHint}
    (h : Endpoint.resolve hint address = .error fault) :
    observation policy verifier session hint address s = ⟨.error (.hint fault), s, []⟩ := by
  unfold observation Validator.validate
  rw [h]
  rfl

/-- With a host, the session is asked first, and then the name decides. -/
theorem observation_of_resolved (h : Endpoint.resolve hint address = .ok host) :
    observation policy verifier session hint address s =
      match policy.evaluate host (Validator.presentedIdentities policy (session s).1) with
      | .error mismatch => ⟨.error (.hostname mismatch), (session s).2, [.session]⟩
      | .ok () =>
        let run := (observedValidator policy verifier).verifyChain host (session s).1
          ((session s).2, [.session])
        ⟨run.1, run.2.1, run.2.2⟩ := by
  unfold observation Validator.validate
  rw [h]
  -- One bind for the session and one for the policy; nothing was asked before them.
  simp only [bind, StateT.bind, Functor.map, StateT.map, observe, pure, List.nil_append,
    observedValidator_policy]
  cases policy.evaluate host (Validator.presentedIdentities policy (session s).1) <;> rfl

theorem observation_of_refuses (h : Endpoint.resolve hint address = .ok host)
    (hrefuses : policy.Refuses host (session s).1) :
    observation policy verifier session hint address s =
      ⟨.error (.hostname ⟨host, policy.mode,
        Policy.mismatchDetail (Validator.presentedIdentities policy (session s).1)⟩),
        (session s).2, [.session]⟩ := by
  rw [observation_of_resolved h, evaluate_of_refuses hrefuses]

/-- The last stage, for a peer with the right name. -/
theorem observation_of_not_refuses (h : Endpoint.resolve hint address = .ok host)
    (hrefuses : ¬ policy.Refuses host (session s).1) :
    observation policy verifier session hint address s =
      match verifier, (session s).1 with
      | none, _ => ⟨.ok (), (session s).2, [.session]⟩
      | some _, [] => ⟨.error (.chain host .noCertificate), (session s).2, [.session]⟩
      | some verify, leaf :: rest =>
        let answer := verify (leaf :: rest) (session s).2
        ⟨answer.1.mapError fun e => .chain host (.rejected e), answer.2,
          [.session, .verifier (leaf :: rest)]⟩ := by
  rw [observation_of_resolved h, evaluate_of_not_refuses hrefuses]
  cases verifier with
  | none => rfl
  | some verify =>
    cases hchain : (session s).1 with
    | nil => rfl
    | cons leaf rest =>
      simp only [observedValidator, Option.map_some, Validator.verifyChain, bind, StateT.bind,
        observe, List.cons_append, List.nil_append]
      cases (verify (leaf :: rest) (session s).2).1 <;> rfl

/-- **The stages of a validation.**  A malformed hint is refused before anything is asked.  With a
host, the session is asked once, and a mismatch is the outcome exactly when the policy refuses the
host; then the verifier is not asked.  Otherwise a missing verifier lets the peer pass, an empty
chain is refused without the verifier, and any other chain is shown to the verifier once and as a
whole: what it says decides. -/
theorem validation_stages (policy : Policy)
    (verifier : Option (List C → StateM σ (Except ε Unit))) (session : StateM σ (List C))
    (hint : Option Text) (address : Value) (s : σ) :
    let result := observation policy verifier session hint address s
    let chain := (session s).1
    (∀ fault, Endpoint.resolve hint address = .error fault →
      result = ⟨.error (.hint fault), s, []⟩) ∧
    ∀ host, Endpoint.resolve hint address = .ok host →
      ((∃ detail, result.outcome = .error (.hostname ⟨host, policy.mode, detail⟩)) ↔
        policy.Refuses host chain) ∧
      (policy.Refuses host chain → result.state = (session s).2 ∧ result.asked = [.session]) ∧
      (¬ policy.Refuses host chain →
        (verifier = none → result = ⟨.ok (), (session s).2, [.session]⟩) ∧
        ∀ verify, verifier = some verify →
          (chain = [] →
            result = ⟨.error (.chain host .noCertificate), (session s).2, [.session]⟩ ∧
            ∀ errorReport : ε → Report,
              (PeerFault.chain host .noCertificate).report errorReport =
                .chainValidation (.text host)
                  (some (.plain .certificateChain "Peer presented no certificate".toList))) ∧
          (chain ≠ [] →
            result.asked = [.session, .verifier chain] ∧
            result.state = (verify chain (session s).2).2 ∧
            result.outcome =
              (verify chain (session s).2).1.mapError fun e => .chain host (.rejected e))) := by
  intro result chain
  refine ⟨fun fault h => observation_of_malformed h, fun host h => ⟨⟨?_, ?_⟩, ?_, ?_⟩⟩
  · rintro ⟨detail, houtcome⟩
    by_contra hrefuses
    have hresult : result = _ := observation_of_not_refuses h hrefuses
    rw [hresult] at houtcome
    split at houtcome
    · cases houtcome
    · cases houtcome
    · next verify leaf rest _ =>
      dsimp only at houtcome
      cases hanswer : (verify (leaf :: rest) (session s).2).1 <;> rw [hanswer] at houtcome <;>
        cases houtcome
  · intro hrefuses
    exact ⟨_, congrArg Observation.outcome (observation_of_refuses h hrefuses)⟩
  · intro hrefuses
    have hresult : result = _ := observation_of_refuses h hrefuses
    rw [hresult]
    exact ⟨rfl, rfl⟩
  · intro hrefuses
    have hresult : result = _ := observation_of_not_refuses h hrefuses
    refine ⟨?_, fun verify hverifier => ⟨?_, ?_⟩⟩
    · rintro rfl
      exact hresult
    · intro hchain
      subst hverifier
      change (session s).1 = [] at hchain
      rw [hchain] at hresult
      exact ⟨hresult, fun _ => rfl⟩
    · intro hchain
      subst hverifier
      obtain ⟨leaf, rest, hcons⟩ := List.exists_cons_of_ne_nil hchain
      change (session s).1 = leaf :: rest at hcons
      rw [hcons] at hresult
      rw [hresult, show chain = leaf :: rest from hcons]
      exact ⟨rfl, rfl, rfl⟩

end Observation

/-! ## One of each

The peer holds a certificate for one name, and the verifier counts how often it is asked and
refuses every chain. -/

/-- A certificate for `svc.internal`. -/
def internalServer : Certificate where
  subject := ⟨[]⟩
  issuer := ⟨[]⟩
  key := []
  signer := []
  serial := 1
  notBefore := ⟨0⟩
  notAfter := ⟨100⟩
  extensions := ⟨none, some [.dns "svc.internal".toList]⟩
  damaged := false

/-- It refuses every chain and counts them. -/
def refuseAndCount (_ : List Certificate) : StateM Nat (Except String Unit) := fun n =>
  (.error "revoked", n + 1)

/-- The stages at work under the strict policy: a hint that is cut off, one with another name, and
one with the name in the certificate. -/
theorem strict_validation_stages :
    observation ⟨.strict⟩ (some refuseAndCount) (pure [internalServer])
        (some "https://[::1".toList) .null 0 =
      ⟨.error (.hint ⟨"https://[::1".toList, .url .misplacedBrackets⟩), 0, []⟩ ∧
    (observation ⟨.strict⟩ (some refuseAndCount) (pure [internalServer])
        (some "https://other.test/".toList) .null 0).asked = [.session] ∧
    (observation ⟨.strict⟩ (some refuseAndCount) (pure [internalServer])
        (some "https://svc.internal:8443/path".toList) .null 0).asked =
      [.session, .verifier [internalServer]] := by
  have hcutOff : Endpoint.resolve (some "https://[::1".toList) .null =
      .error ⟨"https://[::1".toList, .url .misplacedBrackets⟩ := by decide +kernel
  have hother : Endpoint.resolve (some "https://other.test/".toList) .null =
      .ok "other.test".toList := by decide +kernel
  have hsame : Endpoint.resolve (some "https://svc.internal:8443/path".toList) .null =
      .ok "svc.internal".toList := by decide +kernel
  have hrefuses : Policy.Refuses ⟨.strict⟩ "other.test".toList [internalServer] :=
    accepts_presentedIdentities_iff.1 (by decide +kernel)
  have hpasses : ¬ Policy.Refuses ⟨.strict⟩ "svc.internal".toList [internalServer] := by
    rw [← accepts_presentedIdentities_iff, Bool.not_eq_false]
    decide +kernel
  refine ⟨?_, ?_, ?_⟩
  · exact (validation_stages ⟨.strict⟩ (some refuseAndCount) (pure [internalServer]) _ .null
      0).1 _ hcutOff
  · exact (((validation_stages ⟨.strict⟩ (some refuseAndCount) (pure [internalServer]) _ .null
      0).2 _ hother).2.1 hrefuses).2
  · have hlast := ((validation_stages ⟨.strict⟩ (some refuseAndCount) (pure [internalServer]) _
      .null 0).2 _ hsame).2.2 hpasses
    exact ((hlast.2 refuseAndCount rfl).2 (List.cons_ne_nil _ _)).1

end PeerTrust
