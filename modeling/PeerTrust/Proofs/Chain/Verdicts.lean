import PeerTrust.Proofs.Chain.TrustedPath
import PeerTrust.Proofs.Instant
import PeerTrust.TrustStore.Basic

/-!
Which failure a verification reports.

A chain can be wrong in several ways at once, and one of them is reported.  `Verdict` says which,
without running any check: the certificates on the path are gone through for their validity, those
between its ends for being authorities, and the neighbours for their signatures, and of the first
of the three in which something is amiss the certificate nearest to the leaf is reported.  The
verdict on a chain is the outcome of its verification, whatever that is (`verify_eq_iff_verdict`).
Only a path on which the extensions of an authority cannot be read has no verdict.

The instant enters through the validity alone, and a certificate is valid in one stretch of time.
So a chain that is verified at two instants is verified at every instant between them.
-/

namespace PeerTrust

/-- The element is the first in the list, from its start, that has not got the property. -/
def FirstWithout {α : Type} (property : α → Prop) (as : List α) (a : α) : Prop :=
  ∃ i : Nat, as[i]? = some a ∧ ¬ property a ∧ ∀ j b, j < i → as[j]? = some b → property b

/-- When a check passes what has a property, a sequence of checks fails at the first element
without it. -/
theorem forM_eq_error_iff_firstWithout {ε α : Type} {check : α → Except ε Unit}
    (property : α → Prop) (hcheck : ∀ a, check a = .ok () ↔ property a) {as : List α} {e : ε} :
    as.forM check = .error e ↔ ∃ a, FirstWithout property as a ∧ check a = .error e := by
  rw [forM_eq_error_iff]
  simp only [hcheck]
  constructor
  · rintro ⟨i, a, hi, ha, hbefore⟩
    have hnot : ¬ property a := by
      rw [← hcheck, ha]
      exact nofun
    exact ⟨a, ⟨i, hi, hnot, hbefore⟩, ha⟩
  · rintro ⟨a, ⟨i, hi, -, hbefore⟩, ha⟩
    exact ⟨i, a, hi, ha, hbefore⟩

namespace Chain

open X509

variable {C : Type} [X509 C] {now : Instant} {path : List C} {c d : C} {depth : Nat}
  {fault : Fault C} {outcome : Except (Fault C) Unit}

/-! ## Failures of single checks -/

/-- The certificate says of itself that it may issue others. -/
def IsAuthority (c : C) : Prop :=
  ∃ e limit, extensions c = some e ∧ e.basicConstraints = some ⟨true, limit⟩

theorem checkValidity_eq_error_iff :
    checkValidity now c = .error fault ↔
      (now < notBefore c ∧ fault = .notYetValid c) ∨
        notBefore c ≤ now ∧ notAfter c < now ∧ fault = .expired c := by
  unfold checkValidity
  rw [← Instant.not_lt]
  by_cases hearly : now < notBefore c
  · simp [hearly, eq_comm]
  · by_cases hlate : notAfter c < now
    · simp [hearly, hlate, eq_comm]
    · simp [hearly, hlate]

theorem checkAuthority_eq_error_iff (hreadable : extensions c ≠ none) :
    checkAuthority c depth = .error fault ↔
      (¬ IsAuthority c ∧ fault = .notAuthority depth) ∨
        IsAuthority c ∧ ¬ MayIssue c depth ∧ fault = .pathTooLong depth := by
  obtain ⟨e, he⟩ := Option.ne_none_iff_exists'.1 hreadable
  rw [← checkAuthority_eq_ok_iff]
  unfold checkAuthority IsAuthority
  rw [he]
  rcases hbasic : e.basicConstraints with _ | ⟨_ | _, _ | limit⟩
  · simp [hbasic, eq_comm]
  · simp [hbasic, eq_comm]
  · simp [hbasic, eq_comm]
  · simp [hbasic]
  · by_cases hdepth : depth ≤ limit
    · simp [hbasic, hdepth]
    · simp [hbasic, hdepth, eq_comm]

theorem checkSignature_eq_error_iff :
    checkSignature c d = .error fault ↔ ¬ issuedBy c d = true ∧ fault = .badSignature c := by
  unfold checkSignature
  by_cases h : issuedBy c d = true
  · simp [h]
  · simp [h, eq_comm]

/-! ## Verdicts -/

/-- The verdict on a path to an anchor. -/
inductive PathVerdict (now : Instant) (path : List C) : Except (Fault C) Unit → Prop where
  | notYetValid {c : C} (first : FirstWithout (ValidAt now) path c) (early : now < notBefore c) :
      PathVerdict now path (.error (.notYetValid c))
  | expired {c : C} (first : FirstWithout (ValidAt now) path c) (begun : notBefore c ≤ now) :
      PathVerdict now path (.error (.expired c))
  | notAuthority {c : C} {depth : Nat} (valid : ∀ c ∈ path, ValidAt now c)
      (first : FirstWithout (fun (c, depth) => MayIssue c depth) (authorities path) (c, depth))
      (none : ¬ IsAuthority c) :
      PathVerdict now path (.error (.notAuthority depth))
  | pathTooLong {c : C} {depth : Nat} (valid : ∀ c ∈ path, ValidAt now c)
      (first : FirstWithout (fun (c, depth) => MayIssue c depth) (authorities path) (c, depth))
      (limited : IsAuthority c) :
      PathVerdict now path (.error (.pathTooLong depth))
  | badSignature {c d : C} (valid : ∀ c ∈ path, ValidAt now c)
      (authorized : ∀ c depth, (c, depth) ∈ authorities path → MayIssue c depth)
      (first : FirstWithout (fun (c, d) => issuedBy c d = true) (links path) (c, d)) :
      PathVerdict now path (.error (.badSignature c))
  | verified (valid : ∀ c ∈ path, ValidAt now c)
      (authorized : ∀ c depth, (c, depth) ∈ authorities path → MayIssue c depth)
      (signed : ∀ c d, (c, d) ∈ links path → issuedBy c d = true) :
      PathVerdict now path (.ok ())

/-- The extensions of the authorities on the path can be read. -/
def Readable (path : List C) : Prop :=
  ∀ c depth, (c, depth) ∈ authorities path → extensions c ≠ none

/-! ## The outcome of the passes -/

theorem forM_checkValidity_eq_error_iff :
    path.forM (checkValidity now) = .error fault ↔
      ∃ c, FirstWithout (ValidAt now) path c ∧
        ((now < notBefore c ∧ fault = .notYetValid c) ∨
          notBefore c ≤ now ∧ fault = .expired c) := by
  rw [forM_eq_error_iff_firstWithout (ValidAt now) fun _ => checkValidity_eq_ok_iff]
  refine exists_congr fun c => and_congr_right fun hfirst => ?_
  obtain ⟨-, -, hinvalid, -⟩ := hfirst
  rw [checkValidity_eq_error_iff]
  -- Whoever is outside of the time and not in front of it is behind it.
  refine or_congr_right (and_congr_right fun hbegun => and_iff_right ?_)
  by_contra hnot
  exact hinvalid ⟨hbegun, Instant.not_lt.1 hnot⟩

theorem forM_checkAuthority_eq_error_iff (hreadable : Readable path) :
    ((authorities path).forM fun (c, depth) => checkAuthority c depth) = .error fault ↔
      ∃ c depth,
        FirstWithout (fun (c, depth) => MayIssue c depth) (authorities path) (c, depth) ∧
        ((¬ IsAuthority c ∧ fault = .notAuthority depth) ∨
          IsAuthority c ∧ fault = .pathTooLong depth) := by
  rw [forM_eq_error_iff_firstWithout (fun (c, depth) => MayIssue c depth)
    fun _ => checkAuthority_eq_ok_iff, Prod.exists]
  refine exists₂_congr fun c depth => and_congr_right fun hfirst => ?_
  obtain ⟨i, hi, hnot, -⟩ := hfirst
  rw [checkAuthority_eq_error_iff (hreadable c depth (List.mem_of_getElem? hi))]
  exact or_congr_right (and_congr_right fun _ => and_iff_right hnot)

theorem forM_checkSignature_eq_error_iff :
    ((links path).forM fun (c, d) => checkSignature c d) = .error fault ↔
      ∃ c d, FirstWithout (fun (c, d) => issuedBy c d = true) (links path) (c, d) ∧
        fault = .badSignature c := by
  rw [forM_eq_error_iff_firstWithout (fun (c, d) => issuedBy c d = true)
    fun _ => checkSignature_eq_ok_iff, Prod.exists]
  refine exists₂_congr fun c d => and_congr_right fun hfirst => ?_
  obtain ⟨-, -, hnot, -⟩ := hfirst
  rw [checkSignature_eq_error_iff]
  exact and_iff_right hnot

theorem checkPath_eq_iff_pathVerdict (hreadable : Readable path) :
    checkPath now path = outcome ↔ PathVerdict now path outcome := by
  unfold checkPath
  cases outcome with
  | ok u =>
    rw [andThen_eq_ok_iff, andThen_eq_ok_iff, forM_checkValidity_eq_ok_iff,
      forM_checkAuthority_eq_ok_iff, forM_checkSignature_eq_ok_iff]
    constructor
    · rintro ⟨hvalid, hauthorized, hsigned⟩
      exact .verified hvalid hauthorized hsigned
    · rintro ⟨⟩
      next hvalid hauthorized hsigned => exact ⟨hvalid, hauthorized, hsigned⟩
  | error fault =>
    rw [andThen_eq_error_iff, andThen_eq_error_iff, forM_checkValidity_eq_ok_iff,
      forM_checkAuthority_eq_ok_iff, forM_checkValidity_eq_error_iff,
      forM_checkAuthority_eq_error_iff hreadable, forM_checkSignature_eq_error_iff]
    constructor
    · rintro (⟨c, hfirst, ⟨hearly, rfl⟩ | ⟨hbegun, rfl⟩⟩ |
        ⟨hvalid, ⟨c, depth, hfirst, ⟨hnone, rfl⟩ | ⟨hlimited, rfl⟩⟩ |
          ⟨hauthorized, c, d, hfirst, rfl⟩⟩)
      · exact .notYetValid hfirst hearly
      · exact .expired hfirst hbegun
      · exact .notAuthority hvalid hfirst hnone
      · exact .pathTooLong hvalid hfirst hlimited
      · exact .badSignature hvalid hauthorized hfirst
    · intro hverdict
      cases hverdict with
      | notYetValid first early => exact .inl ⟨_, first, .inl ⟨early, rfl⟩⟩
      | expired first begun => exact .inl ⟨_, first, .inr ⟨begun, rfl⟩⟩
      | notAuthority valid first none =>
        exact .inr ⟨valid, .inl ⟨_, _, first, .inl ⟨none, rfl⟩⟩⟩
      | pathTooLong valid first limited =>
        exact .inr ⟨valid, .inl ⟨_, _, first, .inr ⟨limited, rfl⟩⟩⟩
      | badSignature valid authorized first =>
        exact .inr ⟨valid, .inr ⟨authorized, _, _, first, rfl⟩⟩

/-! ## Whole verifications -/

section Verification

variable {C : Type} [X509 C] [DecidableEq C] {anchors presented chain path : List C}
  {now early late : Instant} {leaf : C} {outcome : Except (Fault C) Unit}

/-- The verdict on a chain. -/
inductive Verdict (anchors : List C) (now : Instant) :
    List C → Except (Fault C) Unit → Prop where
  | empty : Verdict anchors now [] (.error .empty)
  | noPath {leaf : C} {presented : List C} {fault : PathFault C}
      (stuck : buildPath anchors presented leaf = .error fault) :
      Verdict anchors now (leaf :: presented) (.error (.path fault))
  | onPath {leaf : C} {presented path : List C} {outcome : Except (Fault C) Unit}
      (built : buildPath anchors presented leaf = .ok path)
      (verdict : PathVerdict now path outcome) :
      Verdict anchors now (leaf :: presented) outcome

theorem verify_of_buildPath_eq_ok (h : buildPath anchors presented leaf = .ok path) :
    verify anchors now (leaf :: presented) = checkPath now path := by
  rw [verify, h]

theorem verify_of_buildPath_eq_error {fault : PathFault C}
    (h : buildPath anchors presented leaf = .error fault) :
    verify anchors now (leaf :: presented) = .error (.path fault) := by
  rw [verify, h]

theorem verify_eq_iff_verdict
    (hreadable : ∀ leaf presented path, chain = leaf :: presented →
      buildPath anchors presented leaf = .ok path → Readable path) :
    verify anchors now chain = outcome ↔ Verdict anchors now chain outcome := by
  constructor
  · rintro rfl
    cases chain with
    | nil => exact .empty
    | cons leaf presented =>
      cases hbuild : buildPath anchors presented leaf with
      | error fault =>
        rw [verify_of_buildPath_eq_error hbuild]
        exact .noPath hbuild
      | ok path =>
        rw [verify_of_buildPath_eq_ok hbuild]
        exact .onPath hbuild
          ((checkPath_eq_iff_pathVerdict (hreadable _ _ _ rfl hbuild)).1 rfl)
  · intro hverdict
    cases hverdict with
    | empty => rfl
    | noPath stuck => exact verify_of_buildPath_eq_error stuck
    | onPath built verdict =>
      rw [verify_of_buildPath_eq_ok built]
      exact (checkPath_eq_iff_pathVerdict (hreadable _ _ _ rfl built)).2 verdict

/-! ## Time -/

omit [DecidableEq C] in
theorem ValidAt.between {c : C} (hearly : ValidAt early c) (hlate : ValidAt late c)
    (hafter : early ≤ now) (hbefore : now ≤ late) : ValidAt now c :=
  ⟨Instant.le_trans hearly.1 hafter, Instant.le_trans hbefore hlate.2⟩

/-- The path does not depend on the instant, and neither does any check but that of validity. -/
theorem verify_between (hearly : verify anchors early chain = .ok ())
    (hlate : verify anchors late chain = .ok ()) (hafter : early ≤ now) (hbefore : now ≤ late) :
    verify anchors now chain = .ok () := by
  cases chain with
  | nil => cases hearly
  | cons leaf presented =>
    cases hbuild : buildPath anchors presented leaf with
    | error fault =>
      rw [verify_of_buildPath_eq_error hbuild] at hearly
      cases hearly
    | ok path =>
      rw [verify_of_buildPath_eq_ok hbuild, checkPath_eq_ok_iff] at hearly hlate ⊢
      refine ⟨fun c hc => ?_, hearly.2⟩
      exact (hearly.1 c hc).between (hlate.1 c hc) hafter hbefore

/-- **The first failure is reported, and time opens one window.**  When the extensions of the
authorities on its path can be read, the outcome of the verification of a chain is the verdict on
it.  A failure of validity is reported in a category of its own, and so is one of a signature; any
other one is a failure of the chain.  A chain that is verified at two instants is verified between
them.  A trust store with a time that says nothing about its clock verifies at that time of
universal time, and a timestamp that says nothing about it is the same instant as with an offset
of nothing. -/
theorem verify_first_failure (anchors chain : List C) (now : Instant) :
    ((∀ leaf presented path, chain = leaf :: presented →
        buildPath anchors presented leaf = .ok path → Readable path) →
      ∀ outcome, verify anchors now chain = outcome ↔ Verdict anchors now chain outcome) ∧
    (∀ fault : Fault C, (∀ c, fault ≠ .unreadable c) →
      fault.report.category =
        match fault with
        | .notYetValid _ | .expired _ => .certificateExpired
        | .badSignature _ => .certificateVerification
        | _ => .certificateChain) ∧
    (∀ early late, verify anchors early chain = .ok () → verify anchors late chain = .ok () →
      early ≤ now → now ≤ late → verify anchors now chain = .ok ()) ∧
    (∀ (store : TrustStore C) shown, store.anchors = anchors → store.time = some ⟨shown, none⟩ →
      store.verify now chain = verify anchors ⟨shown⟩ chain) ∧
    ∀ s, Instant.IsLocal s →
      Instant.ofTimestamp? s = Instant.ofTimestamp? (s ++ "+00:00".toList) := by
  refine ⟨fun hreadable outcome => verify_eq_iff_verdict hreadable, fun fault hfault => ?_,
    fun early late hearly hlate hafter hbefore => verify_between hearly hlate hafter hbefore,
    fun store shown hanchors htime => ?_,
    fun s hs => (Instant.ofTimestamp?_append_offset hs).symm⟩
  · cases fault with
    | unreadable c => exact absurd rfl (hfault c)
    | _ => rfl
  · rw [TrustStore.verify_of_time htime, ClockTime.instant_of_unknown, hanchors]

end Verification

/-- A client for which the server signed, though it is no authority. -/
def serversClient : Certificate := certificateFor "Client" "Server" 9 100 none

/-- The impostor has room for no authority below it and has not signed for the server either, but
the server is nearer to the leaf and comes before its signature; after instant 100 the leaf itself
is the first to be reported. -/
theorem verify_first_failure_serversClient :
    Verdict [rootAuthority] ⟨50⟩ [serversClient, server, impostor] (.error (.notAuthority 0)) ∧
    Verdict [rootAuthority] ⟨150⟩ [serversClient, server, impostor]
      (.error (.expired serversClient)) ∧
    verify [rootAuthority] ⟨50⟩ [server, issuingAuthority] = .ok () ∧
    ({ anchors := [rootAuthority], nonempty := nofun, time := some ⟨50, none⟩ } :
        TrustStore Certificate).verify ⟨500⟩ [server, issuingAuthority] = .ok () ∧
    Instant.ofTimestamp? "2025-06-01T12:30:00".toList =
      Instant.ofTimestamp? "2025-06-01T12:30:00+00:00".toList := by
  have hreadable : ∀ leaf presented path, [serversClient, server, impostor] = leaf :: presented →
      buildPath [rootAuthority] presented leaf = .ok path → Readable path := by
    rintro leaf presented path hchain hbuild
    cases hchain
    have hpath : buildPath [rootAuthority] [server, impostor] serversClient =
        .ok [serversClient, server, impostor, rootAuthority] := by decide +kernel
    cases hpath.symm.trans hbuild
    intro c depth hmem
    have hmem' : (c, depth) ∈ [(server, 0), (impostor, 1)] := hmem
    simp only [List.mem_cons, Prod.mk.injEq, List.not_mem_nil, or_false] at hmem'
    rcases hmem' with ⟨rfl, rfl⟩ | ⟨rfl, rfl⟩ <;> exact nofun
  obtain ⟨hverdict, -⟩ :=
    verify_first_failure [rootAuthority] [serversClient, server, impostor] ⟨50⟩
  obtain ⟨hverdict', -⟩ :=
    verify_first_failure [rootAuthority] [serversClient, server, impostor] ⟨150⟩
  obtain ⟨-, -, hbetween, -, hlocal⟩ :=
    verify_first_failure [rootAuthority] [server, issuingAuthority] ⟨50⟩
  obtain ⟨-, -, -, hstore, -⟩ :=
    verify_first_failure [rootAuthority] [server, issuingAuthority] ⟨500⟩
  have hverified : verify [rootAuthority] ⟨50⟩ [server, issuingAuthority] = .ok () :=
    hbetween ⟨0⟩ ⟨100⟩ (by decide +kernel) (by decide +kernel) (by decide) (by decide)
  refine ⟨(hverdict hreadable _).1 (by decide +kernel),
    (hverdict' hreadable _).1 (by decide +kernel), hverified, ?_, ?_⟩
  · rw [← hverified]
    exact hstore _ 50 rfl rfl
  · exact hlocal "2025-06-01T12:30:00".toList ⟨by decide, by decide, by decide, by decide⟩

end Chain

end PeerTrust
