import PeerTrust.Policy
import PeerTrust.Proofs.Host.Comparison
import PeerTrust.Proofs.Identity.Matching

/-!
Names of nothing but blanks.

An empty host matches nothing, and an empty name is no candidate.  Both are asked before anything is
trimmed, but names are compared afterwards, and by then a name of nothing but blanks is as empty as
the empty one.  So blanks match blanks (`matchesHost_blankPair`): a certificate whose name is a
single blank speaks for a host that is one.

Apart from that a blank name takes no part in a match (`matchesHost_of_blank`).  Whatever matches a
host is blank if and only if the host is (`trim_eq_nil_iff_of_nameMatches`), so a host with
something in it needs a candidate with something in it.
-/

namespace PeerTrust

variable {strict : Bool} {host name : Text} {ids : IdentitySet} {mode : Mode}

theorem asterisk_not_mem_fold_of_blank (h : name.trim = []) : '*' ∉ name.fold := by
  rw [Text.fold_eq_nil_iff.2 h]
  exact List.not_mem_nil

/-- A name that matches a host is blank if the host is, and only then. -/
theorem trim_eq_nil_iff_of_nameMatches
    (h : nameMatches strict (Host.normalize host) name.fold = true) :
    host.trim = [] ↔ name.trim = [] := by
  by_cases hasterisk : '*' ∈ name.fold
  · -- A wildcard is not blank, and what it covers has a full stop in it.
    obtain ⟨-, hcovers⟩ := (nameMatches_of_asterisk_mem hasterisk).1 h
    obtain ⟨front, ending, hcovering, -⟩ := Wildcard.covers_iff.1 hcovers
    refine iff_of_false (fun hhost => ?_) fun hname => ?_
    · have hdot := hcovering.dot_mem
      rw [Host.normalize_eq_nil_iff.2 hhost] at hdot
      exact List.not_mem_nil hdot
    · exact asterisk_not_mem_fold_of_blank hname hasterisk
  · rw [nameMatches_of_asterisk_not_mem hasterisk, Host.normalize_fold] at h
    rw [← Host.normalize_eq_nil_iff, h, Host.normalize_eq_nil_iff]

theorem nameMatches_of_blank (hhost : host.trim = []) (hname : name.trim = []) :
    nameMatches strict (Host.normalize host) name.fold = true := by
  rw [nameMatches_of_asterisk_not_mem (asterisk_not_mem_fold_of_blank hname), Host.normalize_fold,
    Host.normalize_eq_nil_iff.2 hhost, Host.normalize_eq_nil_iff.2 hname]

/-- The modes that exempt no host leave the verdict to the match. -/
theorem Policy.evaluate_iff_matchesHost (h : mode = .strict ∨ mode = .default) :
    Policy.evaluate ⟨mode⟩ (some host) ids = .ok () ↔
      ids.matchesHost (mode == .strict) host = true := by
  have hexempts : Policy.exempts ⟨mode⟩ host = false := by
    rcases h with rfl | rfl <;> rfl
  rw [Policy.evaluate_eq_ok_iff, Option.getD_some, Policy.accepts, hexempts, Bool.false_or,
    Policy.isStrict]

namespace IdentitySet

theorem matchesHost_singleton_iff (h : name.trim ≠ []) :
    (ofTexts [] [name]).matchesHost strict host = true ↔
      host ≠ [] ∧ nameMatches strict (Host.normalize host) name.fold = true := by
  have hne : name ≠ [] := by
    rintro rfl
    exact h rfl
  have honly : (ofTexts [] [name]).ClaimsOnly name := .inr rfl
  exact honly.matchesHost_iff hne

theorem matchesHost_of_trim_eq_nil (h : host.trim = []) :
    ids.matchesHost strict host = true ↔
      host ≠ [] ∧ ∃ name, .text name ∈ ids.candidates ∧ name.trim = [] := by
  rw [matchesHost_eq_true_iff]
  refine and_congr_right fun _ => exists_congr fun name => and_congr_right fun _ => ?_
  exact ⟨fun hname => (trim_eq_nil_iff_of_nameMatches hname).1 h, nameMatches_of_blank h⟩

/-- **Blank names.**  A host that is not blank matches a set exactly when it matches one of its
candidates that is not blank either.  A host of nothing but blanks matches a set exactly when one of
the candidates is of nothing but blanks, and then the host passes under strict and under default;
only the empty host matches nothing. -/
theorem matchesHost_of_blank (ids : IdentitySet) (strict : Bool) (host : Text) :
    (host.trim ≠ [] →
      (ids.matchesHost strict host = true ↔
        ∃ name, .text name ∈ ids.candidates ∧ name.trim ≠ [] ∧
          (ofTexts [] [name]).matchesHost strict host = true)) ∧
    (host.trim = [] →
      (ids.matchesHost strict host = true ↔
        host ≠ [] ∧ ∃ name, .text name ∈ ids.candidates ∧ name.trim = []) ∧
      ∀ mode, mode = .strict ∨ mode = .default →
        (Policy.evaluate ⟨mode⟩ (some host) ids = .ok () ↔
          host ≠ [] ∧ ∃ name, .text name ∈ ids.candidates ∧ name.trim = [])) := by
  refine ⟨fun hhost => ?_, fun hhost => ⟨matchesHost_of_trim_eq_nil hhost, fun mode hmode => ?_⟩⟩
  · rw [matchesHost_eq_true_iff]
    constructor
    · rintro ⟨hne, name, hmem, hname⟩
      have htrim : name.trim ≠ [] := mt (trim_eq_nil_iff_of_nameMatches hname).2 hhost
      exact ⟨name, hmem, htrim, (matchesHost_singleton_iff htrim).2 ⟨hne, hname⟩⟩
    · rintro ⟨name, hmem, htrim, hmatches⟩
      obtain ⟨hne, hname⟩ := (matchesHost_singleton_iff htrim).1 hmatches
      exact ⟨hne, name, hmem, hname⟩
  · rw [Policy.evaluate_iff_matchesHost hmode, matchesHost_of_trim_eq_nil hhost]

/-- A single blank matches a single blank, and passes the strictest policy. -/
theorem matchesHost_blankPair :
    (ofTexts [] [" ".toList]).matchesHost true " ".toList = true ∧
    Text.trim " ".toList = [] ∧
    Policy.evaluate ⟨.strict⟩ (some " ".toList) (ofTexts [] [" ".toList]) = .ok () := by
  decide +kernel

end IdentitySet

end PeerTrust
