import PeerTrust.Proofs.Collected
import PeerTrust.Proofs.Stages

/-!
What is taken from a certificate, and what is not.

Extraction can go wrong in one way that nobody would notice: a certificate whose alternative names
cannot be read still has common names, and a host may match one of those although the issuer had
listed other names for it.  So extraction is all or nothing.  What "all" means is said here by
`Collected`, without reference to how the names are gathered: element by element, a kind of name
that can identify a host contributes its text, and any other kind contributes nothing.

"Nothing" is carried on to the end of a validation.  A leaf whose extensions cannot be read is
refused by every policy that looks at names, for every host, and the refusal says that there were
no names rather than that they did not match.
-/

namespace PeerTrust

/-! ## The names in a certificate -/

/-- The attribute is a common name with this value. -/
def IsCommonName (a : Attribute) (value : Text) : Prop := a.type = .commonName ∧ a.value = value

/-- The alternative name can identify a host, by this text: a DNS name as it is, and an address in
its chosen written form. -/
inductive IdentifiesHost : GeneralName → Text → Prop where
  | dns (name : Text) : IdentifiesHost (.dns name) name
  | ip (address : IpAddress) : IdentifiesHost (.ip address) address.toText

namespace X509

theorem hostName?_eq_some_iff {name : GeneralName} {text : Text} :
    hostName? name = some text ↔ IdentifiesHost name text := by
  constructor
  · intro h
    unfold hostName? at h
    split at h
    · cases h
      exact .dns text
    · cases h
      exact .ip _
    · cases h
  · rintro (_ | _) <;> rfl

section

variable {C : Type} [X509 C] {c : C}

/-- The common names are collected from the end of the subject, where the most specific one
stands. -/
theorem collected_commonNames :
    Collected IsCommonName (subject c).attributes.reverse (commonNames c) := by
  have hvalue : ∀ (a : Attribute) (text : Text),
      (if a.type == .commonName then some a.value else none) = some text ↔
        IsCommonName a text := by
    intro a text
    rw [Option.ite_none_right_eq_some, Option.some_inj, beq_iff_eq, IsCommonName]
  rw [collected_iff_filterMap_eq hvalue, List.filterMap_reverse, ← List.filterMap_filter,
    List.filterMap_eq_map']
  rfl

theorem altNames?_eq_some {e : Extensions} (h : extensions c = some e) :
    ∃ alts, altNames? c = some alts ∧ Collected IdentifiesHost (e.altNames.getD []) alts := by
  refine ⟨(e.altNames.getD []).filterMap hostName?, ?_, ?_⟩
  · unfold altNames?
    rw [h, Option.map_some]
  · exact (collected_iff_filterMap_eq fun _ _ => hostName?_eq_some_iff).2 rfl

theorem identities_of_unreadable (h : extensions c = none) : identities c = .empty := by
  unfold identities altNames?
  rw [h, Option.map_none]

end

end X509

/-! ## A leaf whose extensions cannot be read -/

section Refusal

variable {σ C ε : Type} [X509 C] {mode : Mode} {host : Text} {leaf : C} {rest : List C}

/-- The mode looks at names, and does not pass over this host. -/
def Mode.Examines (mode : Mode) (host : Text) : Prop :=
  mode = .strict ∨ mode = .default ∨ mode = .defaultAndLocalhost ∧ Host.isLoopback host = false

theorem refuses_of_unreadable (hexamines : mode.Examines host)
    (hunreadable : X509.extensions leaf = none) :
    Policy.Refuses ⟨mode⟩ host (leaf :: rest) := by
  refine ⟨?_, ?_, .inr ⟨leaf, rest, rfl, ?_⟩⟩
  · rintro (rfl : mode = .allowAll)
    rcases hexamines with h | h | ⟨h, -⟩ <;> cases h
  · rintro ⟨rfl : mode = .defaultAndLocalhost, hloopback⟩
    rcases hexamines with h | h | ⟨-, h⟩
    · cases h
    · cases h
    · rw [hloopback] at h
      cases h
  · rw [X509.identities_of_unreadable hunreadable]
    exact IdentitySet.matchesHost_empty _ host

theorem mismatchDetail_of_unreadable (hunreadable : X509.extensions leaf = none) (policy : Policy) :
    Policy.mismatchDetail (Validator.presentedIdentities policy (leaf :: rest)) =
      "certificate doesn't contain CN or DNS subjectAlt".toList := by
  have hempty : Validator.presentedIdentities policy (leaf :: rest) = .empty := by
    rw [Validator.presentedIdentities, X509.identities_of_unreadable hunreadable, ite_self]
  rw [hempty]
  rfl

/-- **All or nothing.**  From a certificate whose extensions can be read come its common names, the
most specific first, and the DNS names and addresses among its alternative names, in their order.
From any other certificate comes nothing.  So a leaf of that kind is refused for every host that
the mode examines, as a certificate without names, and the verifier is not asked. -/
theorem extraction_all_or_nothing (leaf : C) :
    (∀ e, X509.extensions leaf = some e →
      ∃ commons alts, X509.identities leaf = .ofTexts commons alts ∧
        Collected IsCommonName (X509.subject leaf).attributes.reverse commons ∧
        Collected IdentifiesHost (e.altNames.getD []) alts) ∧
    (X509.extensions leaf = none →
      X509.identities leaf = .empty ∧
      ∀ (mode : Mode) (verifier : Option (List C → StateM σ (Except ε Unit)))
        (session : StateM σ (List C)) (hint : Option Text) (address : Value) (s : σ)
        (host : Text) (rest : List C),
        Endpoint.resolve hint address = .ok host → (session s).1 = leaf :: rest →
        mode.Examines host →
        let mismatch : HostnameMismatch :=
          ⟨host, mode, "certificate doesn't contain CN or DNS subjectAlt".toList⟩
        observation ⟨mode⟩ verifier session hint address s =
            ⟨.error (.hostname mismatch), (session s).2, [.session]⟩ ∧
          mismatch.report = .hostnameMismatch (.text host) (.text mode.identifier)
            (.text "certificate doesn't contain CN or DNS subjectAlt".toList)) := by
  constructor
  · intro e he
    obtain ⟨alts, halts, hcollected⟩ := X509.altNames?_eq_some he
    refine ⟨X509.commonNames leaf, alts, ?_, X509.collected_commonNames, hcollected⟩
    unfold X509.identities
    rw [halts]
  · intro hunreadable
    refine ⟨X509.identities_of_unreadable hunreadable, ?_⟩
    intro mode verifier session hint address s host rest hresolve hchain hexamines mismatch
    refine ⟨?_, rfl⟩
    have hrefuses : Policy.Refuses ⟨mode⟩ host (session s).1 := by
      rw [hchain]
      exact refuses_of_unreadable hexamines hunreadable
    rw [observation_of_refuses hresolve hrefuses, hchain, mismatchDetail_of_unreadable hunreadable]

end Refusal

/-- A certificate with the common name `svc.internal` and extensions that cannot be read. -/
def damagedServer : Certificate :=
  { internalServer with subject := ⟨[[⟨.commonName, "svc.internal".toList⟩]]⟩, damaged := true }

/-- The common name would have matched; the strict policy refuses the host nevertheless, for want
of names. -/
theorem damagedServer_refused :
    (X509.subject damagedServer).values .commonName = ["svc.internal".toList] ∧
    X509.extensions damagedServer = none ∧
    (observation ⟨.strict⟩ (some refuseAndCount) (pure [damagedServer])
        (some "https://svc.internal:8443/path".toList) .null 0).outcome =
      .error (.hostname ⟨"svc.internal".toList, .strict,
        "certificate doesn't contain CN or DNS subjectAlt".toList⟩) := by
  have hresolve : Endpoint.resolve (some "https://svc.internal:8443/path".toList) .null =
      .ok "svc.internal".toList := by decide +kernel
  have hrefused := ((extraction_all_or_nothing (σ := Nat) (ε := String) damagedServer).2 rfl).2
    .strict (some refuseAndCount) (pure [damagedServer]) _ .null 0 _ [] hresolve rfl (.inl rfl)
  exact ⟨rfl, rfl, congrArg Observation.outcome hrefused.1⟩

end PeerTrust
