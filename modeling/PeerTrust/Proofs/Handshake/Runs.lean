import Mathlib.Data.List.Basic
import Mathlib.Data.List.Induction
import PeerTrust.Proofs.Handshake.Versions

/-!
Runs of actions on one context.

A context may be limited again and again, directly or as configured, and any of these actions may
fail.  What keeps such a run easy to follow is that no action looks at the context it is done to, if
the context takes every version: the answer is fixed, and so is what is put in the place of the
versions and of the ciphers, where anything is (`Action.effect`).  An action done twice in a row is
therefore as good as done once, and of a whole run only the last list of protocols that was applied
can be seen in the versions.

A list of protocols counts as applied when setting it gave no error, also if the ciphers of the
same configuration were refused afterwards.
-/

namespace PeerTrust.TlsContext

/-! ## What an action asks for -/

/-- The protocols that an action asks for, if it does. -/
def Action.protocolNames : Action → NameList
  | protocols names => some names
  | ciphers _ => none
  | configure config => config.protocols.asked

/-- The ciphers that an action asks for, if it does. -/
def Action.cipherNames : Action → NameList
  | protocols _ => none
  | ciphers names => some names
  | configure config => config.ciphers.asked

variable {table : CipherTable} {refusal : Refusal} {c start : TlsContext} {names : List Text}
  {range : VersionRange} {action : Action} {actions : List Action}

/-! ## Effects -/

/-- What is done to every context alike: the answer that is given, and what is put in the place of
the versions and of the ciphers, if anything is. -/
structure Effect where
  answer : Except EngineFault Unit
  versions : Option VersionBounds
  ciphers : Option (List Text)

namespace Effect

/-- Does it to a context. -/
def apply (e : Effect) (c : TlsContext) : Except EngineFault Unit × TlsContext :=
  (e.answer, ⟨e.versions.getD c.versions, e.ciphers.or c.ciphers⟩)

/-- Nothing is done, with this answer. -/
def nothing (answer : Except EngineFault Unit) : Effect := ⟨answer, none, none⟩

/-- To overwrite twice is to overwrite once. -/
theorem apply_apply (e : Effect) (c : TlsContext) : e.apply (e.apply c).2 = e.apply c := by
  obtain ⟨answer, versions, ciphers⟩ := e
  cases versions <;> cases ciphers <;> rfl

/-- One effect and, if its answer is no error, another one. -/
def andThen (e f : Effect) : Effect :=
  match e.answer with
  | .error _ => e
  | .ok () => ⟨f.answer, f.versions.or e.versions, f.ciphers.or e.ciphers⟩

theorem andThen_apply (e f : Effect) (c : TlsContext) :
    (e.andThen f).apply c =
      match e.answer with
      | .error _ => e.apply c
      | .ok () => f.apply (e.apply c).2 := by
  unfold andThen
  cases e.answer with
  | error fault => rfl
  | ok u =>
    unfold apply
    rw [Option.getD_or, Option.or_assoc]

theorem andThen_nothing (e : Effect) : e.andThen (nothing (.ok ())) = e := by
  obtain ⟨answer | answer, versions, ciphers⟩ := e
  · rfl
  · unfold andThen nothing
    simp only [Option.none_or]

theorem nothing_andThen (e : Effect) : (nothing (.ok ())).andThen e = e := by
  unfold andThen nothing
  simp only [Option.or_none]

theorem versions_andThen {e f : Effect} (hf : f.versions = none) :
    (e.andThen f).versions = e.versions := by
  unfold andThen
  split
  · rfl
  · rw [hf, Option.none_or]

theorem ciphers_andThen {e f : Effect} (he : e.ciphers = none) (hf : f.ciphers = none) :
    (e.andThen f).ciphers = none := by
  unfold andThen
  split
  · exact he
  · rw [he, hf, Option.or_none]

end Effect

/-- The effect of setting protocols in a context that takes every version. -/
def protocolEffect (names : List Text) : Effect :=
  match versionRange names with
  | .ok range => ⟨.ok (), some range.bounds, none⟩
  | .error fault => .nothing (.error fault)

/-- The effect of setting ciphers. -/
def cipherEffect (table : CipherTable) (names : List Text) : Effect :=
  if ([':'].intercalate names).contains '\x00' then .nothing (.error .nulCharacter)
  else
    match CipherRequest.select? table ([':'].intercalate names) with
    | none => .nothing (.error (noCipher names))
    | some selected =>
      ⟨if selected.isEmpty then .error (noCipher names) else .ok (), none,
        some (table.fixed ++ selected)⟩

/-- The effect of a setting on a list of names, if there is one. -/
def namesEffect (setting : List Text → Effect) : NameList → Effect
  | none => .nothing (.ok ())
  | some names => setting names

/-- The effect of an action. -/
def Action.effect (table : CipherTable) (action : Action) : Effect :=
  (namesEffect protocolEffect action.protocolNames).andThen
    (namesEffect (cipherEffect table) action.cipherNames)

theorem enableCiphers_eq_apply :
    enableCiphers table names c = (cipherEffect table names).apply c := by
  unfold enableCiphers cipherEffect
  by_cases hnul : ([':'].intercalate names).contains '\x00' = true
  · rw [if_pos hnul, if_pos hnul]
    rfl
  · rw [if_neg hnul, if_neg hnul]
    cases CipherRequest.select? table ([':'].intercalate names) <;> rfl

/-- A setting with an effect has it on the names that a configuration asks for. -/
theorem applyNames_eq_apply {setting : List Text → ContextM (Except EngineFault Unit)}
    {effect : List Text → Effect} (h : ∀ names c, setting names c = (effect names).apply c)
    (list : NameList) (c : TlsContext) :
    Engine.applyNames setting list c = (namesEffect effect list.asked).apply c := by
  unfold Engine.applyNames
  cases list.asked with
  | none => rfl
  | some names => exact h names c

/-! ## One action -/

/-- The action asks for protocols, and setting them in this context gives no error and means this
range. -/
def Applies (refusal : Refusal) (c : TlsContext) (action : Action) (range : VersionRange) : Prop :=
  ∃ names, action.protocolNames = some names ∧ (enableProtocols refusal names c).1 = .ok () ∧
    Denotes names range

/-- The lowest version of the context is not above the highest, if both were ever set. -/
def Ordered (c : TlsContext) : Prop :=
  ∀ low high, c.versions.lowest = some low → c.versions.highest = some high → low.rank ≤ high.rank

theorem protocolEffect_of_denotes (h : Denotes names range) :
    protocolEffect names = ⟨.ok (), some range.bounds, none⟩ := by
  unfold protocolEffect
  rw [versionRange_eq_ok_iff.2 h]

theorem versions_cipherEffect : (cipherEffect table names).versions = none := by
  unfold cipherEffect
  split
  · rfl
  · split <;> rfl

theorem ciphers_protocolEffect : (protocolEffect names).ciphers = none := by
  unfold protocolEffect
  split <;> rfl

/-- The versions that an action sets are those of the list it applies. -/
theorem versions_effect : (action.effect table).versions =
    (namesEffect protocolEffect action.protocolNames).versions := by
  refine Effect.versions_andThen ?_
  cases action.cipherNames with
  | none => rfl
  | some names => exact versions_cipherEffect

theorem ciphers_effect_of_not_asked (h : action.cipherNames = none) :
    (action.effect table).ciphers = none := by
  refine Effect.ciphers_andThen ?_ ?_
  · cases action.protocolNames with
    | none => rfl
    | some names => exact ciphers_protocolEffect
  · rw [h]
    rfl

section Accepts

variable (haccepts : refusal.Accepts)

include haccepts

theorem enableProtocols_eq_apply :
    enableProtocols refusal names c = (protocolEffect names).apply c := by
  cases hrange : versionRange names with
  | ok range =>
    have hdenotes := versionRange_eq_ok_iff.1 hrange
    rw [enableProtocols_of_takes hdenotes (takes_of_accepts haccepts),
      protocolEffect_of_denotes hdenotes]
    rfl
  | error fault =>
    rw [enableProtocols_of_error hrange]
    unfold protocolEffect
    rw [hrange]
    rfl

/-- To limit a context as configured is to set its protocols and then, if these were taken, its
ciphers. -/
theorem configure_eq_apply (config : HandshakeConfig) :
    (engine table refusal).configure config c =
      ((namesEffect protocolEffect config.protocols.asked).andThen
        (namesEffect (cipherEffect table) config.ciphers.asked)).apply c := by
  generalize hprotocolsEffect : namesEffect protocolEffect config.protocols.asked = protocols
  have hprotocols : Engine.applyNames (enableProtocols refusal) config.protocols c =
      protocols.apply c := by
    rw [← hprotocolsEffect]
    refine applyNames_eq_apply (fun names c => ?_) _ c
    exact enableProtocols_eq_apply haccepts
  have hciphers (c : TlsContext) : Engine.applyNames (enableCiphers table) config.ciphers c =
      (namesEffect (cipherEffect table) config.ciphers.asked).apply c := by
    refine applyNames_eq_apply (fun names c => ?_) _ c
    exact enableCiphers_eq_apply
  rw [Effect.andThen_apply]
  simp only [Engine.configure, engine, bind, StateT.bind, hprotocols]
  -- The answer to the protocols decides, before and after, whether ciphers are set at all.
  have hanswer : (protocols.apply c).1 = protocols.answer := rfl
  rw [← hanswer]
  rcases protocols.apply c with ⟨answer | answer, next⟩
  · rfl
  · exact hciphers next

/-- An action does to every context what its effect says. -/
theorem Action.run_eq_apply : action.run table refusal c = (action.effect table).apply c := by
  unfold Action.effect
  cases action with
  | protocols names =>
    exact (enableProtocols_eq_apply haccepts).trans
      (congrArg (Effect.apply · c) (Effect.andThen_nothing _).symm)
  | ciphers names =>
    exact enableCiphers_eq_apply.trans (congrArg (Effect.apply · c) (Effect.nothing_andThen _).symm)
  | configure config => exact configure_eq_apply haccepts config

/-- A list that is refused is refused before anything is changed. -/
theorem protocolEffect_of_error {fault : EngineFault}
    (h : (enableProtocols refusal names c).1 = .error fault) :
    protocolEffect names = .nothing (.error fault) := by
  rw [enableProtocols_eq_apply haccepts] at h
  change (protocolEffect names).answer = .error fault at h
  unfold protocolEffect at h ⊢
  split at h
  · cases h
  · cases h
    rfl

theorem versions_of_applies (h : Applies refusal c action range) :
    (action.run table refusal c).2.versions = range.bounds := by
  obtain ⟨names, hnames, -, hdenotes⟩ := h
  rw [Action.run_eq_apply haccepts]
  change (action.effect table).versions.getD c.versions = range.bounds
  rw [versions_effect, hnames]
  change (protocolEffect names).versions.getD c.versions = range.bounds
  rw [protocolEffect_of_denotes hdenotes]
  rfl

theorem versions_of_not_applies (h : ∀ range, ¬ Applies refusal c action range) :
    (action.run table refusal c).2.versions = c.versions := by
  rw [Action.run_eq_apply haccepts]
  change (action.effect table).versions.getD c.versions = c.versions
  rw [versions_effect]
  cases hnames : action.protocolNames with
  | none => rfl
  | some names =>
    cases hanswer : (enableProtocols refusal names c).1 with
    | ok u =>
      obtain ⟨range, hdenotes, -⟩ := enableProtocols_eq_ok_iff.1 hanswer
      exact absurd ⟨names, hnames, hanswer, hdenotes⟩ (h range)
    | error fault =>
      change (protocolEffect names).versions.getD c.versions = c.versions
      rw [protocolEffect_of_error haccepts hanswer]
      rfl

theorem ciphers_of_not_asked (h : action.cipherNames = none) :
    (action.run table refusal c).2.ciphers = c.ciphers := by
  rw [Action.run_eq_apply haccepts]
  change (action.effect table).ciphers.or c.ciphers = c.ciphers
  rw [ciphers_effect_of_not_asked h, Option.none_or]

/-- Refused protocols end an action: its ciphers are not set either. -/
theorem run_of_refused (table : CipherTable) {fault : EngineFault}
    (hnames : action.protocolNames = some names)
    (h : (enableProtocols refusal names c).1 = .error fault) :
    action.run table refusal c = (.error fault, c) := by
  rw [Action.run_eq_apply haccepts]
  unfold Action.effect
  rw [hnames]
  change ((protocolEffect names).andThen _).apply c = _
  rw [protocolEffect_of_error haccepts h]
  rfl

theorem run_run :
    action.run table refusal (action.run table refusal c).2 = action.run table refusal c := by
  rw [Action.run_eq_apply haccepts, Action.run_eq_apply haccepts, Effect.apply_apply]

/-- An action leaves an ordered context ordered. -/
theorem Ordered.run (h : c.Ordered) : (action.run table refusal c).2.Ordered := by
  by_cases happlies : ∃ range, Applies refusal c action range
  · obtain ⟨range, happlies⟩ := happlies
    intro low high hlow hhigh
    rw [versions_of_applies haccepts happlies] at hlow hhigh
    cases hlow
    cases hhigh
    obtain ⟨names, -, -, hdenotes⟩ := happlies
    exact hdenotes.lowest_le_highest
  · intro low high hlow hhigh
    rw [versions_of_not_applies haccepts (not_exists.1 happlies)] at hlow hhigh
    exact h low high hlow hhigh

end Accepts

/-! ## Runs -/

/-- The context after actions, one after the other, whatever their answers. -/
def after (table : CipherTable) (refusal : Refusal) (start : TlsContext) (actions : List Action) :
    TlsContext :=
  actions.foldl (fun c action => (action.run table refusal c).2) start

theorem after_concat : after table refusal start (actions ++ [action]) =
    (action.run table refusal (after table refusal start actions)).2 := by
  unfold after
  rw [List.foldl_append]
  rfl

/-- The last list of protocols that was applied in a run means this range: an action applied one,
and none of those behind it did, each in the context it came to. -/
def LastApplied (table : CipherTable) (refusal : Refusal) (start : TlsContext)
    (actions : List Action) (range : VersionRange) : Prop :=
  ∃ before action later, actions = before ++ action :: later ∧
    Applies refusal (after table refusal start before) action range ∧
    ∀ between next rest, later = between ++ next :: rest →
      ∀ other,
        ¬ Applies refusal (after table refusal start (before ++ action :: between)) next other

theorem lastApplied_nil : ¬ LastApplied table refusal start [] range := by
  rintro ⟨before, action, later, h, -⟩
  exact List.append_ne_nil_of_right_ne_nil before (List.cons_ne_nil action later) h.symm

/-- One more action: either it is the last to apply a list, or it applies none and the last list is
that of the run before. -/
theorem lastApplied_concat_iff : LastApplied table refusal start (actions ++ [action]) range ↔
    Applies refusal (after table refusal start actions) action range ∨
      (∀ other, ¬ Applies refusal (after table refusal start actions) action other) ∧
        LastApplied table refusal start actions range := by
  constructor
  · rintro ⟨before, step, later, hsplit, happlies, hlast⟩
    rcases List.eq_nil_or_concat' later with rfl | ⟨later, next, rfl⟩
    · obtain ⟨rfl, hstep⟩ := List.append_inj' hsplit rfl
      cases hstep
      exact .inl happlies
    · rw [← List.cons_append, ← List.append_assoc] at hsplit
      obtain ⟨rfl, hnext⟩ := List.append_inj' hsplit rfl
      cases hnext
      refine .inr ⟨hlast later action [] rfl, before, step, later, rfl, happlies, ?_⟩
      intro between next rest hlater
      refine hlast between next (rest ++ [action]) ?_
      rw [hlater, List.append_assoc]
      rfl
  · rintro (happlies | ⟨hnot, before, step, later, rfl, happlies, hlast⟩)
    · refine ⟨actions, action, [], rfl, happlies, fun between next rest h => ?_⟩
      exact absurd h.symm (List.append_ne_nil_of_right_ne_nil _ (List.cons_ne_nil next rest))
    · refine ⟨before, step, later ++ [action], ?_, happlies, ?_⟩
      · rw [List.append_assoc]
        rfl
      · intro between next rest hlater
        rcases List.eq_nil_or_concat' rest with rfl | ⟨rest, final, rfl⟩
        · obtain ⟨rfl, hnext⟩ := List.append_inj' hlater rfl
          cases hnext
          exact hnot
        · rw [← List.cons_append, ← List.append_assoc] at hlater
          exact hlast between next rest (List.append_inj' hlater rfl).1

theorem versions_after (haccepts : refusal.Accepts) :
    (∀ range, LastApplied table refusal start actions range →
      (after table refusal start actions).versions = range.bounds) ∧
    ((∀ range, ¬ LastApplied table refusal start actions range) →
      (after table refusal start actions).versions = start.versions) := by
  induction actions using List.reverseRecOn with
  | nil => exact ⟨fun range h => absurd h lastApplied_nil, fun _ => rfl⟩
  | append_singleton actions action ih =>
    rw [after_concat]
    by_cases happlies : ∃ range, Applies refusal (after table refusal start actions) action range
    · obtain ⟨range, happlies⟩ := happlies
      have hlast := lastApplied_concat_iff.2 (.inl happlies)
      refine ⟨fun other hother => ?_, fun hnone => absurd hlast (hnone range)⟩
      rcases lastApplied_concat_iff.1 hother with h | ⟨hnot, -⟩
      · exact versions_of_applies haccepts h
      · exact absurd happlies (hnot range)
    · have hnot := not_exists.1 happlies
      rw [versions_of_not_applies haccepts hnot]
      refine ⟨fun range h => ?_, fun hnone => ih.2 fun range h => ?_⟩
      · rcases lastApplied_concat_iff.1 h with happlies | ⟨-, h⟩
        · exact absurd happlies (hnot range)
        · exact ih.1 range h
      · exact hnone range (lastApplied_concat_iff.2 (.inr ⟨hnot, h⟩))

theorem Ordered.after (haccepts : refusal.Accepts) (h : start.Ordered) :
    (after table refusal start actions).Ordered := by
  induction actions using List.reverseRecOn with
  | nil => exact h
  | append_singleton actions action ih =>
    rw [after_concat]
    exact ih.run haccepts

/-- **Consistency of runs.**  After any actions on an ordered context that takes every version,
whatever came of them, the context is ordered, and its versions are those of the last list of
protocols that was applied, or those it started with when none was.  A further action touches only
what it asks for; refused protocols end it with nothing changed; and doing it again at once gives
the same answer and the same context. -/
theorem run_consistency (table : CipherTable) (refusal : Refusal) (haccepts : refusal.Accepts)
    (start : TlsContext) (hstart : start.Ordered) (actions : List Action) :
    let current := after table refusal start actions
    current.Ordered ∧
    (∀ range, LastApplied table refusal start actions range →
      current.versions = range.bounds) ∧
    ((∀ range, ¬ LastApplied table refusal start actions range) →
      current.versions = start.versions) ∧
    ∀ action : Action,
      let answer := (action.run table refusal current).1
      let next := (action.run table refusal current).2
      (action.protocolNames = none → next.versions = current.versions) ∧
      (action.cipherNames = none → next.ciphers = current.ciphers) ∧
      (∀ names fault, action.protocolNames = some names →
        (enableProtocols refusal names current).1 = .error fault →
          answer = .error fault ∧ next = current) ∧
      action.run table refusal next = (answer, next) := by
  intro current
  refine ⟨hstart.after haccepts, (versions_after haccepts).1, (versions_after haccepts).2,
    fun action => ?_⟩
  refine ⟨fun hnone => ?_, ciphers_of_not_asked haccepts, fun names fault hnames hfault => ?_,
    run_run haccepts⟩
  · refine versions_of_not_applies haccepts ?_
    rintro range ⟨names, hnames, -⟩
    rw [hnone] at hnames
    cases hnames
  · have hrefused := run_of_refused haccepts table hnames hfault
    exact ⟨congrArg Prod.fst hrefused, congrArg Prod.snd hrefused⟩

/-- Protocols, and a cipher that is unknown. -/
def halfKnownConfig : HandshakeConfig :=
  ⟨some ["TLSv1.3".toList, "TLSv1.2".toList], some ["NOT-A-REAL-CIPHER".toList]⟩

/-- Protocols with a gap. -/
def gappedNames : List Text := ["TLSv1".toList, "TLSv1.3".toList]

/-- A configuration whose protocols are applied and whose cipher is refused, then protocols with a
gap, then a known cipher. -/
def mixedRun : List Action :=
  [.configure halfKnownConfig, .protocols gappedNames, .ciphers ["AES128-SHA".toList]]

/-- The context after the configuration. -/
def halfConfigured : TlsContext := after usualCiphers .never {} [.configure halfKnownConfig]

/-- The configuration fails for its cipher, but its protocols stay in force to the end of the run.
The list with a gap is refused and changes nothing.  The known cipher is set, and setting it again
gives the same answer and the same context. -/
theorem mixedRun_consistent :
    Ordered {} ∧ LastApplied usualCiphers .never {} mixedRun ⟨.tls12, .tls13⟩ ∧
    (after usualCiphers .never {} mixedRun).versions = ⟨some .tls12, some .tls13⟩ ∧
    (Action.run usualCiphers .never (.configure halfKnownConfig) {}).1 =
      .error (noCipher ["NOT-A-REAL-CIPHER".toList]) ∧
    Action.run usualCiphers .never (.protocols gappedNames) halfConfigured =
      (.error (.unsupported .protocols gappedNames
        "protocol versions must form a contiguous range".toList), halfConfigured) ∧
    let known := Action.run usualCiphers .never (.ciphers ["AES128-SHA".toList])
    known (known halfConfigured).2 = (.ok (), (known halfConfigured).2) := by
  have haccepts : Refusal.never.Accepts := fun _ _ _ => rfl
  have hstart : Ordered {} := nofun
  have hfirst : Denotes ["TLSv1.3".toList, "TLSv1.2".toList] ⟨.tls12, .tls13⟩ :=
    versionRange_eq_ok_iff.1 (by decide)
  have hgap : versionRange gappedNames = .error (.unsupported .protocols gappedNames
      "protocol versions must form a contiguous range".toList) := by
    decide
  have hlast : LastApplied usualCiphers .never {} mixedRun ⟨.tls12, .tls13⟩ := by
    refine ⟨[], _, _, rfl, ⟨_, rfl, ?_, hfirst⟩, ?_⟩
    · exact enableProtocols_eq_ok_iff.2 ⟨_, hfirst, takes_of_accepts haccepts⟩
    · rintro (_ | ⟨_, _ | ⟨_, between⟩⟩) next rest hlater other ⟨names, hnames, -, hdenotes⟩
      · cases hlater
        cases hnames
        rw [← versionRange_eq_ok_iff, hgap] at hdenotes
        cases hdenotes
      · cases hlater
        cases hnames
      · exact absurd (congrArg List.length hlater) (by simp)
  obtain ⟨-, hversions, -⟩ := run_consistency usualCiphers .never haccepts {} hstart mixedRun
  obtain ⟨-, -, -, hstep⟩ := run_consistency usualCiphers .never haccepts {} hstart
    [.configure halfKnownConfig]
  obtain ⟨hanswer, hnext⟩ := (hstep (.protocols gappedNames)).2.2.1 gappedNames _ rfl
    (congrArg Prod.fst (enableProtocols_of_error hgap))
  have hagain := (hstep (.ciphers ["AES128-SHA".toList])).2.2.2
  refine ⟨hstart, hlast, hversions _ hlast, by decide +kernel, Prod.ext hanswer hnext, ?_⟩
  exact hagain.trans (Prod.ext (by decide +kernel) rfl)

end PeerTrust.TlsContext
