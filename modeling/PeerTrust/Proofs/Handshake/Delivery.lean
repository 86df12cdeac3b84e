import PeerTrust.Handshake.Engine
import PeerTrust.Proofs.ClientConfig

/-!
From lists of names to the calls of an engine.

On its way from a setting to an engine a list is read twice, once for the configuration of the
client and once for the limits of the handshake.  The first reading leaves nothing for the second to
change, and it never leaves a list without names, for which an engine could be called in vain.  So
an engine is called with exactly the names of the configuration.

Which calls are made is stated for every engine, whatever its state is and in whatever way it fails.
To see the calls, the engine is observed (`Engine.observed`): a call is noted just before it is
made, also if the engine then fails, and otherwise nothing is different
(`Engine.configure_observed_of_passed`, `Engine.configure_observed_of_raised`).
-/

namespace PeerTrust

namespace Engine

variable {σ ε : Type} {e : Engine (ExceptT ε (StateM σ))} {config : HandshakeConfig}
  {s s' : σ} {earlier : List EngineCall}

/-! ## Observed engines -/

/-- What comes of a call: a failure of the engine itself, a refusal, or nothing to complain of. -/
abbrev Outcome (ε : Type) := Except ε (Except EngineFault Unit)

/-- The setting with every call noted before it is made. -/
def noted (parameter : HandshakeParameter)
    (setting : List Text → ExceptT ε (StateM σ) (Except EngineFault Unit)) (names : List Text) :
    ExceptT ε (StateM (σ × List EngineCall)) (Except EngineFault Unit) :=
  ExceptT.mk fun (s, calls) =>
    let (outcome, s') := (setting names).run.run s
    (outcome, s', calls ++ [⟨parameter, names⟩])

/-- The engine with a note of every call. -/
def observed (e : Engine (ExceptT ε (StateM σ))) :
    Engine (ExceptT ε (StateM (σ × List EngineCall))) where
  enableProtocols := noted .protocols e.enableProtocols
  enableCiphers := noted .ciphers e.enableCiphers

/-- The calls that a list of names takes: one with these names, or none for no list. -/
def callsOf (parameter : HandshakeParameter) (list : NameList) : List EngineCall :=
  list.asked.toList.map (EngineCall.mk parameter)

theorem applyNames_noted (parameter : HandshakeParameter)
    (setting : List Text → ExceptT ε (StateM σ) (Except EngineFault Unit)) (list : NameList)
    (s : σ) (earlier : List EngineCall) :
    (applyNames (noted parameter setting) list).run.run (s, earlier) =
      (((applyNames setting list).run.run s).1, ((applyNames setting list).run.run s).2,
        earlier ++ callsOf parameter list) := by
  unfold applyNames callsOf
  cases list.asked with
  | none =>
    rw [Option.toList_none, List.map_nil, List.append_nil]
    rfl
  | some names => rfl

/-! ## Configuration -/

section Configure

variable {μ : Type} (engine : Engine (ExceptT ε (StateM μ))) {t t' : μ} {outcome : Outcome ε}

theorem configure_of_passed
    (h : (applyNames engine.enableProtocols config.protocols).run.run t = (.ok (.ok ()), t')) :
    (engine.configure config).run.run t =
      (applyNames engine.enableCiphers config.ciphers).run.run t' := by
  unfold configure
  rw [ExceptT.run_bind, StateT.run_bind, h]
  rfl

/-- Whatever is wrong with the protocols, the ciphers are left alone. -/
theorem configure_of_raised
    (h : (applyNames engine.enableProtocols config.protocols).run.run t = (outcome, t'))
    (hraised : outcome ≠ .ok (.ok ())) :
    (engine.configure config).run.run t = (outcome, t') := by
  unfold configure
  rw [ExceptT.run_bind, StateT.run_bind, h]
  match outcome, hraised with
  | .error failure, _ => rfl
  | .ok (.error fault), _ => rfl

end Configure

/-- When nothing is wrong with the protocols, both lists are delivered, the protocols first. -/
theorem configure_observed_of_passed {last : Outcome ε × σ}
    (hfirst : (applyNames e.enableProtocols config.protocols).run.run s = (.ok (.ok ()), s'))
    (hlast : (applyNames e.enableCiphers config.ciphers).run.run s' = last) :
    (e.configure config).run.run s = last ∧
      (e.observed.configure config).run.run (s, earlier) =
        (last.1, last.2,
          earlier ++ callsOf .protocols config.protocols ++ callsOf .ciphers config.ciphers) := by
  have hnoted := applyNames_noted .protocols e.enableProtocols config.protocols s earlier
  rw [hfirst] at hnoted
  constructor
  · rw [configure_of_passed e hfirst, hlast]
  · rw [configure_of_passed e.observed hnoted, ← hlast]
    exact applyNames_noted .ciphers e.enableCiphers config.ciphers s' _

/-- When something is wrong with the protocols, nothing but these is delivered. -/
theorem configure_observed_of_raised {outcome : Outcome ε}
    (hfirst : (applyNames e.enableProtocols config.protocols).run.run s = (outcome, s'))
    (hraised : outcome ≠ .ok (.ok ())) :
    (e.configure config).run.run s = (outcome, s') ∧
      (e.observed.configure config).run.run (s, earlier) =
        (outcome, s', earlier ++ callsOf .protocols config.protocols) := by
  have hnoted := applyNames_noted .protocols e.enableProtocols config.protocols s earlier
  rw [hfirst] at hnoted
  exact ⟨configure_of_raised e hfirst hraised,
    configure_of_raised e.observed hnoted hraised⟩

end Engine

/-! ## From settings to calls -/

/-- The limits of the handshake are the lists of the configuration, since these are normal. -/
theorem ClientConfig.handshake_of_toConfig {settings : ClientSettings} {config : ClientConfig}
    (h : settings.toConfig = .ok config) :
    config.handshake = ⟨config.httpsProtocols, config.preferredCiphers⟩ := by
  obtain ⟨-, hprotocols, hciphers, -⟩ := ClientSettings.toConfig_eq_ok_iff.1 h
  unfold ClientConfig.handshake
  rw [NameList.reread_eq_self (NameList.isNormal_of_ofValue hprotocols),
    NameList.reread_eq_self (NameList.isNormal_of_ofValue hciphers)]

open Engine in
/-- **Names reach the engine unchanged.**  A list that was read holds the names that the entries of
its value give, in their order; it is no list or one of names without blanks around them, and is
read again as it is.  So the limits of a handshake are the lists of the configuration, and an engine
of any kind is called with exactly these: once with the protocols, then once with the ciphers, but
not for a list that is missing, and not with the ciphers after something was wrong with the
protocols. -/
theorem names_reach_engine :
    (∀ (v : Value) (list : NameList), NameList.ofValue v = .ok list →
      (∃ entries, NameList.Entries v entries ∧
        Collected NameList.GivesName entries (list.getD [])) ∧
      list.IsNormal ∧ NameList.ofValue list.toValue = .ok list) ∧
    ∀ (settings : ClientSettings) (config : ClientConfig), settings.toConfig = .ok config →
      config.handshake = ⟨config.httpsProtocols, config.preferredCiphers⟩ ∧
      ∀ (σ ε : Type) (e : Engine (ExceptT ε (StateM σ))) (s : σ) (earlier : List EngineCall),
        let first := (applyNames e.enableProtocols config.httpsProtocols).run.run s
        let last := (applyNames e.enableCiphers config.preferredCiphers).run.run first.2
        (first.1 = .ok (.ok ()) →
          (e.configure config.handshake).run.run s = last ∧
          (e.observed.configure config.handshake).run.run (s, earlier) =
            (last.1, last.2, earlier ++ callsOf .protocols config.httpsProtocols ++
              callsOf .ciphers config.preferredCiphers)) ∧
        (first.1 ≠ .ok (.ok ()) →
          (e.configure config.handshake).run.run s = first ∧
          (e.observed.configure config.handshake).run.run (s, earlier) =
            (first.1, first.2, earlier ++ callsOf .protocols config.httpsProtocols)) := by
  refine ⟨fun v list hlist => ?_, fun settings config hconfig => ?_⟩
  · obtain ⟨entries, hentries, hcollected, -⟩ := NameList.ofValue_eq_ok_iff.1 hlist
    have hnormal := NameList.isNormal_of_ofValue hlist
    refine ⟨⟨entries, hentries, hcollected⟩, hnormal, ?_⟩
    rw [NameList.ofValue_toValue, NameList.reread_eq_self hnormal]
  · have hhandshake := ClientConfig.handshake_of_toConfig hconfig
    refine ⟨hhandshake, fun σ ε e s earlier => ?_⟩
    rw [hhandshake]
    intro first last
    constructor
    · intro hpassed
      have hfirst : first = (.ok (.ok ()), first.2) := Prod.ext hpassed rfl
      exact configure_observed_of_passed hfirst rfl
    · intro hraised
      exact configure_observed_of_raised rfl hraised

/-- An engine that counts the lists it is given and fails for one with a certain name. -/
def fussyEngine (refused : Text) : Engine (ExceptT Text (StateM Nat)) where
  enableProtocols := limit
  enableCiphers := limit
where
  /-- Counts the list and fails if it is to. -/
  limit (names : List Text) : ExceptT Text (StateM Nat) (Except EngineFault Unit) := do
    modify (· + 1)
    if names.contains refused then throw "refused".toList else return .ok ()

/-- Protocols in a sequence of all kinds of values, and ciphers in a text. -/
def mixedSettings : ClientSettings where
  httpsProtocols :=
    .list [.text " TLSv1.3 ".toList, .null, .text "a,b".toList, .int 5, .text " ".toList]
  preferredCiphers := .text "B,, A ,B".toList

/-- The name with a comma is kept whole, the ciphers keep their order and the repetition, and they
are not delivered to an engine that fails for the protocols. -/
theorem names_reach_engine_mixedSettings :
    ∃ config, mixedSettings.toConfig = .ok config ∧
      config.handshake =
        ⟨some ["TLSv1.3".toList, "a,b".toList, "5".toList],
          some ["B".toList, "A".toList, "B".toList]⟩ ∧
      ((fussyEngine "none".toList).observed.configure config.handshake).run.run (0, []) =
        (.ok (.ok ()), 2,
          [⟨.protocols, ["TLSv1.3".toList, "a,b".toList, "5".toList]⟩,
            ⟨.ciphers, ["B".toList, "A".toList, "B".toList]⟩]) ∧
      ((fussyEngine "5".toList).observed.configure config.handshake).run.run (0, []) =
        (.error "refused".toList, 1,
          [⟨.protocols, ["TLSv1.3".toList, "a,b".toList, "5".toList]⟩]) ∧
      NameList.ofValue (.tuple [.text "B".toList, .text "A".toList, .text "B".toList]) =
        .ok (some ["B".toList, "A".toList, "B".toList]) := by
  have hconfig : mixedSettings.toConfig =
      .ok ⟨.default, some ["TLSv1.3".toList, "a,b".toList, "5".toList],
        some ["B".toList, "A".toList, "B".toList], []⟩ := by rfl
  obtain ⟨hlists, hconfigs⟩ := names_reach_engine
  obtain ⟨hhandshake, hengines⟩ := hconfigs _ _ hconfig
  refine ⟨_, hconfig, hhandshake, ?_, ?_, ?_⟩
  · exact ((hengines _ _ (fussyEngine "none".toList) 0 []).1 (by rfl)).2
  · exact ((hengines _ _ (fussyEngine "5".toList) 0 []).2 (by decide)).2
  · exact (hlists mixedSettings.preferredCiphers _ (by rfl)).2.2

end PeerTrust
