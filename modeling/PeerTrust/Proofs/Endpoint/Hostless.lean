import PeerTrust.Proofs.Host.Loopback
import PeerTrust.Proofs.Strictness
import PeerTrust.Proofs.Value.Display

/-!
Addresses without a host.

An address that is no pair of a host and a port, the path of a local socket for instance, has no
host that a certificate could vouch for.  It is shown as text so that the refusal which follows can
name it.  But nothing keeps that text apart from a host.  It goes through the same stages, and what
comes of it is what would come of a pair with the text for its host (`observation_of_hostless`): a
peer passes if its certificate claims the text for a name, and for the bare text `localhost` it may
pass without a certificate (`bare_localhost_passes`).

So a refusal is certain only where there is no text at all, and otherwise it depends on the
certificate (`hostless_address_verdict`).  The exemption of the local machine, which asks for no
certificate, is open only to bare texts and to objects that display themselves as they like: the
text of any other value starts with a bracket, a digit or a word, and no name of the local machine
starts like that and goes on like it (`Host.isLoopback_display`).
-/

namespace PeerTrust

namespace Endpoint

variable {address : Value} {hint : Option Text} {host : Text} {items : List Value}

/-- The address is a sequence of two elements or more, and the first is this host: a text that is
not empty. -/
def NamesHost (address : Value) (host : Text) : Prop :=
  host ≠ [] ∧ ∃ port more, address = .list (.text host :: port :: more) ∨
    address = .tuple (.text host :: port :: more)

theorem firstText?_eq_some_iff :
    firstText? items = some host ↔ host ≠ [] ∧ ∃ port more, items = .text host :: port :: more := by
  constructor
  · intro h
    unfold firstText? at h
    split at h
    · next c cs port more =>
      cases h
      exact ⟨List.cons_ne_nil c cs, port, more, rfl⟩
    · cases h
  · rintro ⟨hne, port, more, rfl⟩
    obtain ⟨c, cs, rfl⟩ := List.exists_cons_of_ne_nil hne
    rfl

theorem hostOfAddress?_eq_some_iff :
    hostOfAddress? address = some host ↔ NamesHost address host := by
  unfold NamesHost
  cases address with
  | list items => simp [hostOfAddress?, firstText?_eq_some_iff]
  | tuple items => simp [hostOfAddress?, firstText?_eq_some_iff]
  | _ => simp [hostOfAddress?]

theorem resolve_of_no_hint (hhint : hint.getD [] = []) :
    resolve hint address = .ok ((hostOfAddress? address).getD (addressText address)) := by
  cases hint with
  | none => rfl
  | some hint =>
    rw [Option.getD_some] at hhint
    rw [hhint]
    rfl

theorem resolve_of_namesHost (hhint : hint.getD [] = []) (h : NamesHost address host) :
    resolve hint address = .ok host := by
  rw [resolve_of_no_hint hhint, hostOfAddress?_eq_some_iff.2 h, Option.getD_some]

theorem resolve_of_hostless (hhint : hint.getD [] = []) (h : ∀ host, ¬ NamesHost address host) :
    resolve hint address = .ok (addressText address) := by
  have hnone : hostOfAddress? address = none := by
    rw [Option.eq_none_iff_forall_ne_some]
    exact fun host hhost => h host (hostOfAddress?_eq_some_iff.1 hhost)
  rw [resolve_of_no_hint hhint, hnone, Option.getD_none]

theorem addressText_of_ne_null (h : address ≠ .null) : addressText address = address.display := by
  cases address with
  | null => exact absurd rfl h
  | _ => rfl

end Endpoint

/-! ## The local machine -/

theorem head?_of_opens {s : Text} (h : Value.Opens s) :
    (s.map Char.toLower).head? ≠ some 'l' ∧ s.head? ≠ some ':' := by
  obtain ⟨c, rest, hs, hc⟩ := h
  have hne : c.toLower ≠ 'l' ∧ c ≠ ':' :=
    IsOpener.induction (P := fun c => c.toLower ≠ 'l' ∧ c ≠ ':') (by decide) hc
  rcases hs with rfl | rfl
  · exact ⟨fun h => hne.1 (Option.some.inj h), fun h => hne.2 (Option.some.inj h)⟩
  · exact ⟨fun h => absurd (Option.some.inj h) (by decide),
      fun h => absurd (Option.some.inj h) (by decide)⟩

/-- What has no text of its own is not taken for the local machine. -/
theorem Host.isLoopback_display {v : Value} (h : v.ownText? = none) :
    isLoopback v.display = false := by
  rw [← Bool.not_eq_true, isLoopback_eq_true_iff]
  obtain ⟨hletter, hcolon⟩ := head?_of_opens (Value.opens_display h).trim
  rintro (hname | ⟨zone, hzoned, -⟩)
  · have hcases : v.display.trim.map Char.toLower = "localhost".toList ∨
        v.display.trim.map Char.toLower = "localhost.localdomain".toList ∨
        v.display.trim.map Char.toLower = "127.0.0.1".toList ∨
        v.display.trim.map Char.toLower = "::1".toList := by
      simpa [loopbackNames] using hname
    -- Three of the names start with a letter or a colon; the digits need a look at the whole text.
    rcases hcases with hlower | hlower | hlower | hlower
    · exact hletter (by rw [hlower]; rfl)
    · exact hletter (by rw [hlower]; rfl)
    · rw [map_toLower_eq_iff (by simp)] at hlower
      exact Value.trim_display_ne_dotted h hlower
    · rw [map_toLower_eq_iff (by simp)] at hlower
      exact hcolon (by rw [hlower]; rfl)
  · exact hcolon (by rw [hzoned]; rfl)

theorem Endpoint.isLoopback_addressText {address : Value} (h : address.ownText? = none) :
    Host.isLoopback (addressText address) = false := by
  by_cases hnull : address = .null
  · rw [hnull]
    decide
  · rw [addressText_of_ne_null hnull]
    exact Host.isLoopback_display h

/-! ## Verdicts -/

section Verdicts

variable {σ C ε : Type} [X509 C] {policy : Policy} {mode : Mode}
  {verifier : Option (List C → StateM σ (Except ε Unit))} {session : StateM σ (List C)}
  {hint hint' : Option Text} {address address' : Value} {host : Text} {chain : List C} {s : σ}

/-- Of hint and address a validation sees only what they are resolved to. -/
theorem observation_of_resolve_eq
    (h : Endpoint.resolve hint address = Endpoint.resolve hint' address') :
    observation policy verifier session hint address s =
      observation policy verifier session hint' address' s := by
  unfold observation Validator.validate
  rw [h]

/-- What lets a host pass under a mode that verifies names. -/
theorem Policy.not_refuses_iff (hmode : mode ≠ .allowAll) :
    ¬ Policy.Refuses ⟨mode⟩ host chain ↔
      mode = .defaultAndLocalhost ∧ Host.isLoopback host = true ∨
        ∃ leaf rest, chain = leaf :: rest ∧
          (X509.identities leaf).matchesHost (mode == .strict) host = true := by
  rw [← accepts_presentedIdentities_iff, Bool.not_eq_false, Policy.accepts, Bool.or_eq_true]
  refine or_congr ?_ ?_
  · rw [← Bool.not_eq_false, Policy.exempts_eq_false_iff, not_and, not_not]
    exact ⟨fun h => h hmode, fun h _ => h⟩
  · rw [← Bool.not_eq_false, matchesHost_presentedIdentities hmode, not_or]
    cases chain with
    | nil => simp
    | cons leaf rest => simp [Policy.isStrict]

/-- Under a mode that verifies names a validation is decided by the host that hint and address are
resolved to. -/
theorem passes_of_resolve_iff (verifier : Option (List C → StateM σ (Except ε Unit)))
    (session : StateM σ (List C)) (s : σ) (hmode : mode ≠ .allowAll)
    (hresolve : Endpoint.resolve hint address = .ok host) :
    Passes mode verifier session hint address s ↔
      ChainAccepted verifier (session s).1 (session s).2 ∧
        (mode = .defaultAndLocalhost ∧ Host.isLoopback host = true ∨
          ∃ leaf rest, (session s).1 = leaf :: rest ∧
            (X509.identities leaf).matchesHost (mode == .strict) host = true) := by
  rw [passes_iff, ← Policy.not_refuses_iff hmode]
  constructor
  · rintro ⟨resolved, hresolved, hrefuses, haccepted⟩
    rw [hresolve] at hresolved
    cases hresolved
    exact ⟨haccepted, hrefuses⟩
  · rintro ⟨haccepted, hrefuses⟩
    exact ⟨host, hresolve, hrefuses, haccepted⟩

theorem IdentitySet.matchesHost_nil (ids : IdentitySet) (strict : Bool) :
    ids.matchesHost strict [] = false := rfl

/-- A text stands for an address as a host does. -/
theorem observation_of_hostless (hhint : hint.getD [] = [])
    (hhostless : ∀ host, ¬ Endpoint.NamesHost address host)
    (htext : Endpoint.addressText address ≠ []) (port : Value) :
    observation policy verifier session hint address s =
      observation policy verifier session none
        (.tuple [.text (Endpoint.addressText address), port]) s := by
  refine observation_of_resolve_eq ?_
  rw [Endpoint.resolve_of_hostless hhint hhostless]
  exact (Endpoint.resolve_of_namesHost rfl ⟨htext, port, [], .inr rfl⟩).symm

/-- **Addresses without a host.**  Without a hint, such an address is validated as if its text were
the host of a pair.  Under a mode that verifies names the peer passes exactly when its chain is
accepted and either its leaf claims the text or the mode exempts the text as the local machine;
when the name is refused, the refusal carries the text.  A missing address and an empty one never
pass, and of the kinds of data only a bare text is ever exempt. -/
theorem hostless_address_verdict (verifier : Option (List C → StateM σ (Except ε Unit)))
    (session : StateM σ (List C)) (hint : Option Text) (address : Value) (s : σ)
    (hhint : hint.getD [] = []) (hhostless : ∀ host, ¬ Endpoint.NamesHost address host) :
    let text := Endpoint.addressText address
    let chain := (session s).1
    (text ≠ [] → ∀ policy port,
      observation policy verifier session hint address s =
        observation policy verifier session none (.tuple [.text text, port]) s) ∧
    ∀ mode, mode ≠ .allowAll →
      (Passes mode verifier session hint address s ↔
        ChainAccepted verifier chain (session s).2 ∧
          (mode = .defaultAndLocalhost ∧ Host.isLoopback text = true ∨
            ∃ leaf rest, chain = leaf :: rest ∧
              (X509.identities leaf).matchesHost (mode == .strict) text = true)) ∧
      (Policy.Refuses ⟨mode⟩ text chain → ∃ detail,
        (observation ⟨mode⟩ verifier session hint address s).outcome =
          .error (.hostname ⟨text, mode, detail⟩)) ∧
      (address = .null ∨ address = .text [] →
        ¬ Passes mode verifier session hint address s) ∧
      (address.ownText? = none → Host.isLoopback text = false ∧
        (chain = [] → ¬ Passes mode verifier session hint address s)) := by
  intro text chain
  have hresolve : Endpoint.resolve hint address = .ok text :=
    Endpoint.resolve_of_hostless hhint hhostless
  refine ⟨fun htext policy port => observation_of_hostless hhint hhostless htext port,
    fun mode hmode => ?_⟩
  have hpasses := passes_of_resolve_iff verifier session s hmode hresolve
  have hloopback : address.ownText? = none → Host.isLoopback text = false :=
    Endpoint.isLoopback_addressText
  refine ⟨hpasses, fun hrefuses => ?_, fun hnothing => ?_, fun htext => ⟨hloopback htext, ?_⟩⟩
  · exact ⟨_, congrArg Observation.outcome (observation_of_refuses hresolve hrefuses)⟩
  · have hempty : text = [] := by
      rcases hnothing with rfl | rfl <;> rfl
    rw [hpasses, hempty]
    rintro ⟨-, ⟨-, hlocal⟩ | ⟨leaf, rest, -, hmatches⟩⟩
    · exact absurd hlocal (by decide)
    · rw [IdentitySet.matchesHost_nil] at hmatches
      cases hmatches
  · intro hchain
    rw [hpasses, hloopback htext]
    rintro ⟨-, ⟨-, hlocal⟩ | ⟨leaf, rest, hcons, -⟩⟩
    · cases hlocal
    · exact List.cons_ne_nil leaf rest (hcons.symm.trans hchain)

end Verdicts

/-! ## Bare texts -/

/-- No verifier for chains. -/
def noVerifier : Option (List Certificate → StateM Unit (Except String Unit)) := none

theorem Endpoint.not_namesHost_text (s host : Text) : ¬ NamesHost (.text s) host := by
  rintro ⟨-, port, more, h | h⟩ <;> cases h

theorem Endpoint.not_namesHost_single (item : Value) (host : Text) :
    ¬ NamesHost (.list [item]) host := by
  rintro ⟨-, port, more, h | h⟩ <;> cases h

/-- A bare text passes under the strict mode if the certificate claims it.  Otherwise the refusal
carries it, and the local machine in a list of its own is not exempt. -/
theorem hostless_address_verdict_bareTexts :
    Passes .strict noVerifier (pure [internalServer]) none (.text "svc.internal".toList) () ∧
    (∃ detail, (observation ⟨.strict⟩ noVerifier (pure [internalServer]) none
        (.text "/run/app.sock".toList) ()).outcome =
      .error (.hostname ⟨"/run/app.sock".toList, .strict, detail⟩)) ∧
    ¬ Passes .defaultAndLocalhost noVerifier (pure []) none
      (.list [.text "localhost".toList]) () := by
  have hclaimed := (hostless_address_verdict noVerifier (pure [internalServer]) none
    (.text "svc.internal".toList) () rfl (Endpoint.not_namesHost_text _)).2 .strict (by decide)
  have hpath := (hostless_address_verdict noVerifier (pure [internalServer]) none
    (.text "/run/app.sock".toList) () rfl (Endpoint.not_namesHost_text _)).2 .strict (by decide)
  have hlist := (hostless_address_verdict noVerifier (pure []) none
    (.list [.text "localhost".toList]) () rfl (Endpoint.not_namesHost_single _)).2
    .defaultAndLocalhost (by decide)
  have hmatches :
      (X509.identities internalServer).matchesHost true "svc.internal".toList = true := by
    decide +kernel
  have hrefuses : Policy.Refuses ⟨.strict⟩ "/run/app.sock".toList [internalServer] :=
    accepts_presentedIdentities_iff.1 (by decide +kernel)
  refine ⟨hclaimed.1.2 ⟨nofun, .inr ⟨internalServer, [], rfl, hmatches⟩⟩, hpath.2.1 hrefuses, ?_⟩
  exact (hlist.2.2.2 rfl).2 rfl

/-- The bare text `localhost` names no host, and it passes without a certificate. -/
theorem bare_localhost_passes :
    (∀ host, ¬ Endpoint.NamesHost (.text "localhost".toList) host) ∧
    Passes .defaultAndLocalhost noVerifier (pure []) none (.text "localhost".toList) () := by
  refine ⟨Endpoint.not_namesHost_text _, passes_iff.2 ⟨"localhost".toList, rfl, ?_, ?_⟩⟩
  · exact Policy.not_refuses_of_isLoopback (by decide +kernel)
  · exact nofun

end PeerTrust
