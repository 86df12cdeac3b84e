import PeerTrust.Identity.Matching
import PeerTrust.Proofs.Host.SecondLook
import PeerTrust.Proofs.Identity.WildcardLabels

/-!
Which hosts a set of identities matches.

A match is found by going through the candidates, so it is one candidate that matches, and for a
candidate with an asterisk the answer is the one about labels: behind the asterisk the labels of
the identity end those of the host, and the asterisk stands for what is left in front of them
(`matchesHost_wildcard_iff`).
-/

namespace PeerTrust

variable {strict : Bool} {host name : Text} {ids : IdentitySet}

theorem entryMatches_eq_true_iff {strict : Bool} {entry : Value} :
    entryMatches strict host entry = true ↔
      ∃ name, entry = .text name ∧ nameMatches strict host name.fold = true := by
  unfold entryMatches
  cases entry <;> simp [Value.text?]

namespace IdentitySet

theorem matchesHost_eq_true_iff {strict : Bool} :
    ids.matchesHost strict host = true ↔ host ≠ [] ∧
      ∃ name, .text name ∈ ids.candidates ∧
        nameMatches strict (Host.normalize host) name.fold = true := by
  unfold matchesHost
  rw [Bool.and_eq_true, Bool.not_eq_true', List.isEmpty_eq_false_iff, List.any_eq_true]
  refine and_congr_right fun _ => ?_
  constructor
  · rintro ⟨entry, hentry, hmatches⟩
    obtain ⟨name, rfl, hname⟩ := entryMatches_eq_true_iff.1 hmatches
    exact ⟨name, hentry, hname⟩
  · rintro ⟨name, hmem, hname⟩
    exact ⟨.text name, hmem, entryMatches_eq_true_iff.2 ⟨name, rfl, hname⟩⟩

/-! ## A set with a single name -/

/-- The name is all that the set claims, as a common name or as an alternative name. -/
def ClaimsOnly (ids : IdentitySet) (name : Text) : Prop :=
  ids = ofTexts [name] [] ∨ ids = ofTexts [] [name]

theorem ClaimsOnly.candidates_eq (h : ids.ClaimsOnly name) (hne : name ≠ []) :
    ids.candidates = [.text name] := by
  rcases h with rfl | rfl <;> simp [candidates, ofTexts, Value.vacuous, hne]

theorem ClaimsOnly.matchesHost_iff (h : ids.ClaimsOnly name) (hne : name ≠ []) :
    ids.matchesHost strict host = true ↔
      host ≠ [] ∧ nameMatches strict (Host.normalize host) name.fold = true := by
  rw [matchesHost_eq_true_iff, h.candidates_eq hne]
  simp

end IdentitySet

/-! ## Wildcards -/

theorem nameMatches_of_asterisk_mem (h : '*' ∈ name) :
    nameMatches strict host name = true ↔
      Host.isIpLiteral host = false ∧ Wildcard.covers strict name host = true := by
  unfold nameMatches
  rw [if_pos (List.contains_iff_mem.2 h), Bool.and_eq_true, Bool.not_eq_true']

theorem nameMatches_of_asterisk_not_mem (h : '*' ∉ name) :
    nameMatches strict host name = true ↔ host = Host.normalize name := by
  unfold nameMatches
  rw [if_neg (by rwa [List.contains_iff_mem]), beq_iff_eq]

/-- What a wildcard covers has a full stop, so that a host which is an IP address would still be
one in normal form. -/
theorem Wildcard.Covering.isIpLiteral_eq_false {front ending : List Text}
    (h : Covering name (Host.normalize host) front ending)
    (hnormal : Host.isIpLiteral (Host.normalize host) = false) :
    Host.isIpLiteral host = false := by
  rw [← Bool.not_eq_true] at hnormal ⊢
  exact fun hhost => hnormal (Host.isIpLiteral_normalize_of_dot_mem hhost h.dot_mem)

/-- The labels behind the asterisk are those of a registry of a country. -/
theorem Wildcard.coversRegistry_iff {label : Text} {ending : List Text} :
    coversRegistry (label :: ending) = true ↔
      ∃ registry country, ending = [registry, country] ∧ country.length = 2 ∧
        registry ∈ registryLabels := by
  match ending with
  | [registry, country] => simp [coversRegistry]
  | [] | [_] | _ :: _ :: _ :: _ => simp [coversRegistry]

/-- **Wildcards match by labels.**  A set whose only name has an asterisk matches a host exactly
when the host is not empty and in normal form no IP address, the labels of the name are an asterisk
and an `ending` of at least two labels without an asterisk that is not the registry of a country,
and the labels of the host are some `front` of labels that are not empty with that `ending` behind
it; in strict mode `front` is a single label. -/
theorem matchesHost_wildcard_iff (strict : Bool) (host : Text) {name : Text} {ids : IdentitySet}
    (hids : ids.ClaimsOnly name) (hasterisk : '*' ∈ name.fold) :
    ids.matchesHost strict host = true ↔
      host ≠ [] ∧ Host.isIpLiteral (Host.normalize host) = false ∧
      ∃ front ending,
        name.fold.splitOn '.' = ['*'] :: ending ∧ 2 ≤ ending.length ∧
        (∀ label ∈ ending, '*' ∉ label) ∧
        (¬ ∃ registry country, ending = [registry, country] ∧ country.length = 2 ∧
          registry ∈ Wildcard.registryLabels) ∧
        (Host.normalize host).splitOn '.' = front ++ ending ∧ front ≠ [] ∧
        (∀ label ∈ front, label ≠ []) ∧ (strict = true → front.length = 1) := by
  have hne : name ≠ [] := by
    rintro rfl
    exact List.not_mem_nil hasterisk
  rw [hids.matchesHost_iff hne, nameMatches_of_asterisk_mem hasterisk, Wildcard.covers_iff]
  refine and_congr_right fun _ => and_congr_right fun _ => exists₂_congr fun front ending => ?_
  rw [← @Wildcard.coversRegistry_iff ['*'] ending, Bool.not_eq_true]
  constructor
  · rintro ⟨h, hstrict⟩
    exact ⟨h.identity_labels, h.two_le_length, h.asterisk_not_mem, h.no_registry, h.host_labels,
      h.front_ne_nil, h.label_ne_nil, hstrict⟩
  · rintro ⟨hidentity, htwo, hmem, hregistry, hhost, hfront, hlabels, hstrict⟩
    exact ⟨⟨hidentity, htwo, hmem, hregistry, hhost, hfront, hlabels⟩, hstrict⟩

/-- The names below `example.com`, as somebody may have typed them. -/
def exampleWildcard : Text := " *.Example.COM".toList

/-- A single label is covered in strict mode, and two labels are not. -/
theorem matchesHost_exampleWildcard :
    (IdentitySet.ofTexts [] [exampleWildcard]).matchesHost true "A.example.com".toList = true ∧
    (IdentitySet.ofTexts [exampleWildcard] []).matchesHost true "a.b.example.com".toList =
      false := by
  have hasterisk : '*' ∈ exampleWildcard.fold := by decide +kernel
  have hlabels : exampleWildcard.fold.splitOn '.' =
      [['*'], "example".toList, "com".toList] := by decide +kernel
  constructor
  · refine (matchesHost_wildcard_iff true _ (.inr rfl) hasterisk).2 ⟨by decide, by decide +kernel,
      ["a".toList], ["example".toList, "com".toList], hlabels, by decide, by decide, ?_,
      by decide +kernel, by decide, by decide, by decide⟩
    rintro ⟨registry, country, hending, hlength, -⟩
    cases hending
    exact absurd hlength (by decide)
  · rw [← Bool.not_eq_true]
    intro h
    obtain ⟨-, -, front, ending, hname, -, -, -, hhost, -, -, hstrict⟩ :=
      (matchesHost_wildcard_iff true _ (.inl rfl) hasterisk).1 h
    rw [hlabels] at hname
    cases hname
    -- The host has four labels, and three are left for it.
    have hlength := congrArg List.length hhost
    rw [List.length_append, hstrict rfl] at hlength
    exact absurd hlength (by decide +kernel)

end PeerTrust
