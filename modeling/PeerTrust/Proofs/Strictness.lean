import PeerTrust.Proofs.Identity.Matching
import PeerTrust.Proofs.Stages

/-!
The policies in the order of their strictness.

Whoever relaxes a policy should know what is let in by that.  Here four validations of the same
peer are compared, one under each policy, although they do not do the same: one does not look at
the certificate, one does not look at it for the local machine, and the other two give a wildcard a
different reach.  The order is strict, default, default with the local machine, and no verification
of names, and a peer that passes under one of them passes under all that follow
(`strictness_order`).

The gaps are known as well.  Between strict and default there are only wildcards that cover two
labels or more, and never for an IP address: such a host is compared by value, and it keeps being
one in normal form, where the wildcards are tried (`Host.isIpLiteral_normalize_of_dot_mem`).
Between default and the policy for the local machine there is only the local machine.
-/

namespace PeerTrust

/-! ## Names -/

section Names

variable {host name : Text} {ids : IdentitySet}

/-- A wildcard that covers a host in strict mode covers it. -/
theorem Wildcard.covers_of_strict (h : covers true name host = true) :
    covers false name host = true := by
  obtain ⟨front, ending, hcovering, -⟩ := covers_iff.1 h
  exact covers_iff.2 ⟨front, ending, hcovering, fun hfalse => absurd hfalse Bool.false_ne_true⟩

theorem nameMatches_of_strict (h : nameMatches true host name = true) :
    nameMatches false host name = true := by
  by_cases hasterisk : '*' ∈ name
  · rw [nameMatches_of_asterisk_mem hasterisk] at h ⊢
    exact ⟨h.1, Wildcard.covers_of_strict h.2⟩
  · rwa [nameMatches_of_asterisk_not_mem hasterisk] at h ⊢

/-- Only the reach of a wildcard depends on the mode. -/
theorem exists_covering_of_nameMatches (h : nameMatches false host name = true)
    (hstrict : nameMatches true host name = false) :
    Host.isIpLiteral host = false ∧
      ∃ front ending, Wildcard.Covering name host front ending ∧ 2 ≤ front.length := by
  rw [← Bool.not_eq_true] at hstrict
  by_cases hasterisk : '*' ∈ name
  · rw [nameMatches_of_asterisk_mem hasterisk] at h hstrict
    obtain ⟨hliteral, hcovers⟩ := h
    obtain ⟨front, ending, hcovering, -⟩ := Wildcard.covers_iff.1 hcovers
    refine ⟨hliteral, front, ending, hcovering, ?_⟩
    by_contra hshort
    -- A single label could have been covered in strict mode.
    have hpos := List.length_pos_iff.2 hcovering.front_ne_nil
    have hcovers' : Wildcard.covers true name host = true :=
      Wildcard.covers_iff.2 ⟨front, ending, hcovering, fun _ => by omega⟩
    exact hstrict ⟨hliteral, hcovers'⟩
  · rw [nameMatches_of_asterisk_not_mem hasterisk] at h hstrict
    exact absurd h hstrict

theorem IdentitySet.matchesHost_of_strict (h : ids.matchesHost true host = true) :
    ids.matchesHost false host = true := by
  obtain ⟨hne, name, hmem, hname⟩ := matchesHost_eq_true_iff.1 h
  exact matchesHost_eq_true_iff.2 ⟨hne, name, hmem, nameMatches_of_strict hname⟩

/-- The host is no IP address, and a wildcard of the set covers two or more of its labels. -/
def IdentitySet.CoversDeeply (ids : IdentitySet) (host : Text) : Prop :=
  Host.isIpLiteral host = false ∧
    ∃ name front ending, .text name ∈ ids.candidates ∧
      Wildcard.Covering name.fold (Host.normalize host) front ending ∧ 2 ≤ front.length

theorem IdentitySet.coversDeeply_of_matchesHost (h : ids.matchesHost false host = true)
    (hstrict : ids.matchesHost true host = false) : ids.CoversDeeply host := by
  obtain ⟨hne, name, hmem, hname⟩ := matchesHost_eq_true_iff.1 h
  have hname' : nameMatches true (Host.normalize host) name.fold = false := by
    rw [← Bool.not_eq_true] at hstrict ⊢
    exact fun hmatches => hstrict (matchesHost_eq_true_iff.2 ⟨hne, name, hmem, hmatches⟩)
  obtain ⟨hliteral, front, ending, hcovering, htwo⟩ := exists_covering_of_nameMatches hname hname'
  exact ⟨hcovering.isIpLiteral_eq_false hliteral, name, front, ending, hmem, hcovering, htwo⟩

end Names

/-! ## Refusals -/

section Refusals

variable {C : Type} [X509 C] {host : Text} {chain : List C}

theorem Policy.not_refuses_allowAll : ¬ Policy.Refuses ⟨.allowAll⟩ host chain :=
  fun h => h.1 rfl

/-- Strict exempts no host. -/
theorem Policy.refuses_strict_iff :
    Policy.Refuses ⟨.strict⟩ host chain ↔ chain = [] ∨ ∃ leaf rest, chain = leaf :: rest ∧
      (X509.identities leaf).matchesHost true host = false :=
  ⟨fun h => h.2.2, fun h => ⟨by decide, fun hmode => absurd hmode.1 (by decide), h⟩⟩

/-- Default exempts no host either. -/
theorem Policy.refuses_default_iff :
    Policy.Refuses ⟨.default⟩ host chain ↔ chain = [] ∨ ∃ leaf rest, chain = leaf :: rest ∧
      (X509.identities leaf).matchesHost false host = false :=
  ⟨fun h => h.2.2, fun h => ⟨by decide, fun hmode => absurd hmode.1 (by decide), h⟩⟩

theorem Policy.Refuses.default_of_defaultAndLocalhost
    (h : Policy.Refuses ⟨.defaultAndLocalhost⟩ host chain) :
    Policy.Refuses ⟨.default⟩ host chain :=
  Policy.refuses_default_iff.2 h.2.2

theorem Policy.Refuses.strict_of_default (h : Policy.Refuses ⟨.default⟩ host chain) :
    Policy.Refuses ⟨.strict⟩ host chain := by
  rw [Policy.refuses_strict_iff]
  rcases Policy.refuses_default_iff.1 h with hempty | ⟨leaf, rest, hchain, hmatches⟩
  · exact .inl hempty
  · refine .inr ⟨leaf, rest, hchain, ?_⟩
    rw [← Bool.not_eq_true] at hmatches ⊢
    exact fun hstrict => hmatches (IdentitySet.matchesHost_of_strict hstrict)

/-- What strict refuses and default does not is covered by a wildcard that reaches far. -/
theorem Policy.Refuses.coversDeeply (h : Policy.Refuses ⟨.strict⟩ host chain)
    (hdefault : ¬ Policy.Refuses ⟨.default⟩ host chain) :
    ∃ leaf rest, chain = leaf :: rest ∧ (X509.identities leaf).CoversDeeply host := by
  rw [Policy.refuses_default_iff] at hdefault
  rcases Policy.refuses_strict_iff.1 h with hempty | ⟨leaf, rest, hchain, hstrict⟩
  · exact absurd (.inl hempty) hdefault
  · refine ⟨leaf, rest, hchain, IdentitySet.coversDeeply_of_matchesHost ?_ hstrict⟩
    rw [← Bool.not_eq_false]
    exact fun hmatches => hdefault (.inr ⟨leaf, rest, hchain, hmatches⟩)

/-- What default refuses and the policy for the local machine does not is the local machine. -/
theorem Policy.Refuses.isLoopback (h : Policy.Refuses ⟨.default⟩ host chain)
    (hlocal : ¬ Policy.Refuses ⟨.defaultAndLocalhost⟩ host chain) :
    Host.isLoopback host = true := by
  by_contra hloopback
  exact hlocal ⟨by decide, fun hmode => hloopback hmode.2, h.2.2⟩

theorem Policy.not_refuses_of_isLoopback (h : Host.isLoopback host = true) :
    ¬ Policy.Refuses ⟨.defaultAndLocalhost⟩ host chain :=
  fun hrefuses => hrefuses.2.1 ⟨rfl, h⟩

omit [X509 C] in
theorem Policy.evaluate_of_isLoopback (h : Host.isLoopback host = true) (ids : IdentitySet) :
    Policy.evaluate ⟨.defaultAndLocalhost⟩ (some host) ids = .ok () := by
  have hexempts : Policy.exempts ⟨.defaultAndLocalhost⟩ host = true := h
  rw [Policy.evaluate_eq_ok_iff, Option.getD_some, Policy.accepts, hexempts, Bool.true_or]

end Refusals

/-! ## Validations -/

section Validations

variable {σ C ε : Type} [X509 C] {mode : Mode}
  {verifier : Option (List C → StateM σ (Except ε Unit))} {session : StateM σ (List C)}
  {hint : Option Text} {address : Value} {chain : List C} {host : Text} {s t : σ}

/-- The peer passes under the policy of this mode. -/
def Passes (mode : Mode) (verifier : Option (List C → StateM σ (Except ε Unit)))
    (session : StateM σ (List C)) (hint : Option Text) (address : Value) (s : σ) : Prop :=
  (observation ⟨mode⟩ verifier session hint address s).outcome = .ok ()

/-- The verifier, if there is one, is shown a chain and accepts it. -/
def ChainAccepted (verifier : Option (List C → StateM σ (Except ε Unit))) (chain : List C)
    (s : σ) : Prop :=
  ∀ verify, verifier = some verify → chain ≠ [] ∧ (verify chain s).1 = .ok ()

theorem outcome_eq_ok_iff (h : Endpoint.resolve hint address = .ok host)
    (hrefuses : ¬ Policy.Refuses ⟨mode⟩ host (session s).1) :
    (observation ⟨mode⟩ verifier session hint address s).outcome = .ok () ↔
      ChainAccepted verifier (session s).1 (session s).2 := by
  rw [observation_of_not_refuses h hrefuses]
  unfold ChainAccepted
  -- The cases are those of the last stage: no verifier, nothing to show it, and its answer.
  cases verifier with
  | none => exact iff_of_true rfl fun verify hverify => by cases hverify
  | some verify =>
    cases (session s).1 with
    | nil =>
      refine iff_of_false (fun houtcome => by cases houtcome) fun haccepted => ?_
      exact (haccepted verify rfl).1 rfl
    | cons leaf rest =>
      dsimp only
      cases hanswer : (verify (leaf :: rest) (session s).2).1 with
      | ok _ =>
        refine iff_of_true rfl fun verify' hverify => ?_
        cases hverify
        exact ⟨List.cons_ne_nil leaf rest, hanswer⟩
      | error e =>
        refine iff_of_false (fun houtcome => by cases houtcome) fun haccepted => ?_
        rw [(haccepted verify rfl).2] at hanswer
        cases hanswer

/-- A host that is not refused is not refused for its name later. -/
theorem outcome_ne_hostname (h : Endpoint.resolve hint address = .ok host)
    (hrefuses : ¬ Policy.Refuses ⟨mode⟩ host (session s).1) (mismatch : HostnameMismatch) :
    (observation ⟨mode⟩ verifier session hint address s).outcome ≠
      .error (.hostname mismatch) := by
  rw [observation_of_not_refuses h hrefuses]
  intro houtcome
  split at houtcome
  · cases houtcome
  · cases houtcome
  · next verify leaf rest _ =>
    dsimp only at houtcome
    cases hanswer : (verify (leaf :: rest) (session s).2).1 <;> rw [hanswer] at houtcome <;>
      cases houtcome

/-- A peer passes when there is a host, the policy does not refuse it, and the chain is accepted.
Only the second depends on the mode. -/
theorem passes_iff :
    Passes mode verifier session hint address s ↔
      ∃ host, Endpoint.resolve hint address = .ok host ∧
        ¬ Policy.Refuses ⟨mode⟩ host (session s).1 ∧
        ChainAccepted verifier (session s).1 (session s).2 := by
  unfold Passes
  constructor
  · intro hpasses
    cases h : Endpoint.resolve hint address with
    | error fault =>
      rw [observation_of_malformed h] at hpasses
      cases hpasses
    | ok host =>
      by_cases hrefuses : Policy.Refuses ⟨mode⟩ host (session s).1
      · rw [observation_of_refuses h hrefuses] at hpasses
        cases hpasses
      · exact ⟨host, rfl, hrefuses, (outcome_eq_ok_iff h hrefuses).1 hpasses⟩
  · rintro ⟨host, h, hrefuses, haccepted⟩
    exact (outcome_eq_ok_iff h hrefuses).2 haccepted

/-- Whatever state they are in, the session tells this chain, and what the verifier says depends on
the chain it is shown. -/
structure Steady (verifier : Option (List C → StateM σ (Except ε Unit)))
    (session : StateM σ (List C)) (chain : List C) : Prop where
  session_eq : ∀ s, (session s).1 = chain
  verifier_eq : ∀ verify, verifier = some verify →
    ∀ shown s t, (verify shown s).1 = (verify shown t).1

omit [X509 C] in
theorem Steady.chainAccepted (h : Steady verifier session chain)
    (haccepted : ChainAccepted verifier chain s) : ChainAccepted verifier chain t := by
  intro verify hverify
  obtain ⟨hne, hok⟩ := haccepted verify hverify
  exact ⟨hne, (h.verifier_eq verify hverify chain t s).trans hok⟩

/-- Between two validations that both get to a host, the policies make the difference. -/
theorem Steady.passes_iff (h : Steady verifier session chain) :
    Passes mode verifier session hint address s ↔
      ∃ host, Endpoint.resolve hint address = .ok host ∧
        ¬ Policy.Refuses ⟨mode⟩ host chain ∧ ChainAccepted verifier chain t := by
  rw [PeerTrust.passes_iff, h.session_eq]
  constructor
  · rintro ⟨host, hhost, hrefuses, haccepted⟩
    exact ⟨host, hhost, hrefuses, h.chainAccepted haccepted⟩
  · rintro ⟨host, hhost, hrefuses, haccepted⟩
    exact ⟨host, hhost, hrefuses, h.chainAccepted haccepted⟩

/-- A peer that passes under one policy and not under another has a host that only the second one
refuses. -/
theorem Steady.exists_refused {mode' : Mode} (h : Steady verifier session chain)
    (hpasses : Passes mode verifier session hint address s)
    (hfails : ¬ Passes mode' verifier session hint address t) :
    ∃ host, Endpoint.resolve hint address = .ok host ∧
      ¬ Policy.Refuses ⟨mode⟩ host chain ∧ Policy.Refuses ⟨mode'⟩ host chain := by
  obtain ⟨host, hhost, hrefuses, haccepted⟩ := (h.passes_iff (t := t)).1 hpasses
  refine ⟨host, hhost, hrefuses, ?_⟩
  by_contra hrefuses'
  exact hfails ((h.passes_iff (t := t)).2 ⟨host, hhost, hrefuses', haccepted⟩)

/-- **The order of the policies.**  For one and the same peer, in whatever states the parties are
found, what passes under a policy passes under every laxer one.  Default lets in more than strict
only where a wildcard of the leaf covers two or more labels of a host that is no IP address, and
the policy for the local machine lets in more than default only for the local machine, whose name
passes whatever a certificate claims and whatever chain there is, also when there is none. -/
theorem strictness_order (h : Steady verifier session chain) (hint : Option Text)
    (address : Value) (s t : σ) :
    (Passes .strict verifier session hint address s →
      Passes .default verifier session hint address t) ∧
    (Passes .default verifier session hint address s →
      Passes .defaultAndLocalhost verifier session hint address t) ∧
    (Passes .defaultAndLocalhost verifier session hint address s →
      Passes .allowAll verifier session hint address t) ∧
    (Passes .default verifier session hint address s →
      ¬ Passes .strict verifier session hint address t →
      ∃ host leaf rest, Endpoint.resolve hint address = .ok host ∧ chain = leaf :: rest ∧
        (X509.identities leaf).CoversDeeply host) ∧
    (Passes .defaultAndLocalhost verifier session hint address s →
      ¬ Passes .default verifier session hint address t →
      ∃ host, Endpoint.resolve hint address = .ok host ∧ Host.isLoopback host = true) ∧
    (∀ host, Endpoint.resolve hint address = .ok host → Host.isLoopback host = true →
      (∀ ids, Policy.evaluate ⟨.defaultAndLocalhost⟩ (some host) ids = .ok ()) ∧
      ∀ (session' : StateM σ (List C)) (mismatch : HostnameMismatch),
        (observation ⟨.defaultAndLocalhost⟩ verifier session' hint address s).outcome ≠
          .error (.hostname mismatch)) := by
  refine ⟨fun hpasses => ?_, fun hpasses => ?_, fun hpasses => ?_, fun hpasses hfails => ?_,
    fun hpasses hfails => ?_, fun host hhost hloopback => ⟨fun ids => ?_, ?_⟩⟩
  -- A peer that passed and now fails was refused for its name, and refusals go the other way.
  · by_contra hfails
    obtain ⟨host, -, hrefuses, hrefuses'⟩ := h.exists_refused hpasses hfails
    exact hrefuses hrefuses'.strict_of_default
  · by_contra hfails
    obtain ⟨host, -, hrefuses, hrefuses'⟩ := h.exists_refused hpasses hfails
    exact hrefuses hrefuses'.default_of_defaultAndLocalhost
  · by_contra hfails
    obtain ⟨host, -, -, hrefuses'⟩ := h.exists_refused hpasses hfails
    exact Policy.not_refuses_allowAll hrefuses'
  · obtain ⟨host, hhost, hrefuses, hrefuses'⟩ := h.exists_refused hpasses hfails
    obtain ⟨leaf, rest, hchain, hdeeply⟩ := hrefuses'.coversDeeply hrefuses
    exact ⟨host, leaf, rest, hhost, hchain, hdeeply⟩
  · obtain ⟨host, hhost, hrefuses, hrefuses'⟩ := h.exists_refused hpasses hfails
    exact ⟨host, hhost, hrefuses'.isLoopback hrefuses⟩
  · exact Policy.evaluate_of_isLoopback hloopback ids
  · intro session' mismatch
    exact outcome_ne_hostname hhost (Policy.not_refuses_of_isLoopback hloopback) mismatch

end Validations

/-! ## A wildcard for one label and for two -/

/-- A certificate for the names below `svc.internal`. -/
def wildcardServer : Certificate :=
  { internalServer with extensions := ⟨none, some [.dns "*.svc.internal".toList]⟩ }

/-- It accepts every chain and counts them. -/
def acceptAndCount (_ : List Certificate) : StateM Nat (Except String Unit) := fun n =>
  (.ok (), n + 1)

theorem steady_wildcardServer :
    Steady (some acceptAndCount) (pure [wildcardServer]) [wildcardServer] := by
  refine ⟨fun s => rfl, fun verify hverify shown s t => ?_⟩
  cases hverify
  rfl

theorem passes_wildcardServer_iff {mode : Mode} {address : Value} {host : Text} {n : Nat}
    (h : Endpoint.resolve none address = .ok host) :
    Passes mode (some acceptAndCount) (pure [wildcardServer]) none address n ↔
      Policy.accepts ⟨mode⟩ host (Validator.presentedIdentities ⟨mode⟩ [wildcardServer]) =
        true := by
  have haccepted : ChainAccepted (some acceptAndCount) [wildcardServer] n := by
    intro verify hverify
    cases hverify
    exact ⟨List.cons_ne_nil _ _, rfl⟩
  rw [steady_wildcardServer.passes_iff (t := n), ← Bool.not_eq_false,
    accepts_presentedIdentities_iff, h]
  constructor
  · rintro ⟨host', hhost, hrefuses, -⟩
    cases hhost
    exact hrefuses
  · intro hrefuses
    exact ⟨host, rfl, hrefuses, haccepted⟩

/-- The address of a socket with this host. -/
def socketAddress (host : Text) : Value := .tuple [.text host, .int 443]

/-- A host two labels down passes under default, so under the laxer policies as well, but not under
strict: the wildcard covers two labels of it.  The local machine passes under the policy that
exempts it, so under the one that allows all, but not under default. -/
theorem strictness_order_wildcardServer :
    let peer : StateM Nat (List Certificate) := pure [wildcardServer]
    let deep := socketAddress "a.b.svc.internal".toList
    let localMachine := socketAddress "localhost".toList
    (¬ Passes .strict (some acceptAndCount) peer none deep 3 ∧
      Passes .default (some acceptAndCount) peer none deep 0 ∧
      Passes .defaultAndLocalhost (some acceptAndCount) peer none deep 3 ∧
      ∃ host leaf rest, Endpoint.resolve none deep = .ok host ∧ [wildcardServer] = leaf :: rest ∧
        (X509.identities leaf).CoversDeeply host) ∧
    ¬ Passes .default (some acceptAndCount) peer none localMachine 3 ∧
      Passes .defaultAndLocalhost (some acceptAndCount) peer none localMachine 0 ∧
      Passes .allowAll (some acceptAndCount) peer none localMachine 3 ∧
      ∃ host, Endpoint.resolve none localMachine = .ok host ∧ Host.isLoopback host = true := by
  intro peer deep localMachine
  have hdeep : Endpoint.resolve none deep = .ok "a.b.svc.internal".toList := rfl
  have hlocal : Endpoint.resolve none localMachine = .ok "localhost".toList := rfl
  obtain ⟨-, hlaxer, -, hwildcard, -, -⟩ := strictness_order steady_wildcardServer none deep 0 3
  obtain ⟨-, -, hall, -, hloopback, -⟩ :=
    strictness_order steady_wildcardServer none localMachine 0 3
  have hstrict : ¬ Passes .strict (some acceptAndCount) peer none deep 3 := fun hpasses =>
    absurd ((passes_wildcardServer_iff hdeep).1 hpasses) (by decide +kernel)
  have hdefault : Passes .default (some acceptAndCount) peer none deep 0 :=
    (passes_wildcardServer_iff hdeep).2 (by decide +kernel)
  have hrefused : ¬ Passes .default (some acceptAndCount) peer none localMachine 3 := fun hpasses =>
    absurd ((passes_wildcardServer_iff hlocal).1 hpasses) (by decide +kernel)
  have hexempt : Passes .defaultAndLocalhost (some acceptAndCount) peer none localMachine 0 :=
    (passes_wildcardServer_iff hlocal).2 (by decide +kernel)
  exact ⟨⟨hstrict, hdefault, hlaxer hdefault, hwildcard hdefault hstrict⟩,
    hrefused, hexempt, hall hexempt, hloopback hexempt hrefused⟩

end PeerTrust
