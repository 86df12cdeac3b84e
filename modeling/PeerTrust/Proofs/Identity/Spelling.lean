import Mathlib.Data.List.Forall2
import PeerTrust.Proofs.Identity.Blank
import PeerTrust.Proofs.Identity.Candidates
import PeerTrust.Proofs.Text.Latin

/-!
The spelling of names.

Host and names are brought into comparable form on the way to the comparison, each on its own way
and some of them more than once.  It does not matter whether this has been done before, or to which
of them.  Nor does the case of Latin letters matter, in names of any alphabet
(`matchesHost_of_spelling`).

What could make a difference is that an empty name is no candidate and a name of blanks is one,
which becomes empty when it is trimmed.  A host that is not blank matches neither of them, and so
the first statement is about such hosts; between a blank host and a blank name it fails.  The case
of letters makes nothing empty, and the second statement is about all hosts.
-/

namespace PeerTrust

/-- The name is left as it is or replaced by its comparable form. -/
def Tidied (name name' : Text) : Prop := name' = name ∨ name' = name.fold

/-- The names are the same but for the case of ASCII letters: they are of one length, and where
their characters differ these are the two cases of one letter. -/
def Recased (name name' : Text) : Prop := name.map Char.toLower = name'.map Char.toLower

instance (name name' : Text) : Decidable (Tidied name name') :=
  inferInstanceAs (Decidable (_ ∨ _))

instance (name name' : Text) : Decidable (Recased name name') :=
  inferInstanceAs (Decidable (_ = _))

variable {strict : Bool} {host host' name name' : Text} {commons commons' alts alts' : List Text}

theorem Tidied.fold_eq (h : Tidied name name') : name'.fold = name.fold := by
  rcases h with rfl | rfl
  · rfl
  · exact Text.fold_fold name

theorem Recased.fold_eq (h : Recased name name') : name'.fold = name.fold := by
  rw [← Text.fold_map_toLower name', ← h, Text.fold_map_toLower]

theorem Recased.eq_nil_iff (h : Recased name name') : name' = [] ↔ name = [] := by
  rw [← List.map_eq_nil_iff (f := Char.toLower), ← h, List.map_eq_nil_iff]

namespace IdentitySet

/-! ## Sets of texts -/

theorem text_mem_candidates_ofTexts_iff :
    .text name ∈ (ofTexts commons alts).candidates ↔ name ∈ commons.take 1 ++ alts ∧ name ≠ [] := by
  have hinjective : Function.Injective Value.text := fun _ _ => Value.text.inj
  unfold candidates ofTexts
  rw [← List.map_take, ← List.map_append, List.mem_filter, List.mem_map_of_injective hinjective,
    Bool.not_eq_true', Value.vacuous, List.isEmpty_eq_false_iff]

theorem matchesHost_single_iff :
    (ofTexts [] [name]).matchesHost strict host = true ↔
      host ≠ [] ∧ name ≠ [] ∧ nameMatches strict (Host.normalize host) name.fold = true := by
  rw [matchesHost_of_candidates_iff (.text name) rfl]
  simp

/-- A set of texts matches a host as the sets of its single candidates do. -/
theorem matchesHost_ofTexts (commons alts : List Text) (strict : Bool) (host : Text) :
    (ofTexts commons alts).matchesHost strict host =
      (commons.take 1 ++ alts).any fun name => (ofTexts [] [name]).matchesHost strict host := by
  rw [Bool.eq_iff_iff, List.any_eq_true]
  simp only [matchesHost_single_iff]
  rw [matchesHost_eq_true_iff]
  simp only [text_mem_candidates_ofTexts_iff]
  constructor
  · rintro ⟨hhost, name, ⟨hmem, hne⟩, hname⟩
    exact ⟨name, hmem, hhost, hne, hname⟩
  · rintro ⟨name, hmem, hhost, hne, hname⟩
    exact ⟨hhost, name, ⟨hmem, hne⟩, hname⟩

/-- A respelling that no single name is seen to undergo is not seen in a set. -/
theorem matchesHost_of_forall₂ {R : Text → Text → Prop}
    (hsingle : ∀ name name', R name name' → (ofTexts [] [name']).matchesHost strict host' =
      (ofTexts [] [name]).matchesHost strict host)
    (hcommons : List.Forall₂ R commons commons') (halts : List.Forall₂ R alts alts') :
    (ofTexts commons' alts').matchesHost strict host' =
      (ofTexts commons alts).matchesHost strict host := by
  have hcandidates : List.Forall₂ R (commons.take 1 ++ alts) (commons'.take 1 ++ alts') :=
    List.rel_append (List.forall₂_take 1 hcommons) halts
  rw [matchesHost_ofTexts, matchesHost_ofTexts]
  generalize commons.take 1 ++ alts = names, commons'.take 1 ++ alts' = names' at hcandidates
  induction hcandidates with
  | nil => rfl
  | cons hname _ ih => rw [List.any_cons, List.any_cons, hsingle _ _ hname, ih]

/-! ## Respelling one name -/

theorem matchesHost_single_of_recased (hhost : Recased host host') (hname : Recased name name') :
    (ofTexts [] [name']).matchesHost strict host' =
      (ofTexts [] [name]).matchesHost strict host := by
  rw [Bool.eq_iff_iff, matchesHost_single_iff, matchesHost_single_iff, Ne, Ne, hhost.eq_nil_iff,
    hname.eq_nil_iff, Host.normalize_eq_of_fold_eq hhost.fold_eq, hname.fold_eq]

/-- A host that is not blank is not matched by an empty name anyway. -/
theorem matchesHost_single_iff_of_not_blank (h : host.trim ≠ []) :
    (ofTexts [] [name]).matchesHost strict host = true ↔
      nameMatches strict (Host.normalize host) name.fold = true := by
  rw [matchesHost_single_iff]
  refine ⟨fun hname => hname.2.2, fun hname => ⟨?_, ?_, hname⟩⟩
  · rintro rfl
    exact h rfl
  · rintro rfl
    exact h ((trim_eq_nil_iff_of_nameMatches hname).2 rfl)

theorem matchesHost_single_of_tidied (h : host.trim ≠ []) (hhost : Tidied host host')
    (hname : Tidied name name') :
    (ofTexts [] [name']).matchesHost strict host' =
      (ofTexts [] [name]).matchesHost strict host := by
  have h' : host'.trim ≠ [] := by
    rwa [Ne, ← Text.fold_eq_nil_iff, hhost.fold_eq, Text.fold_eq_nil_iff]
  rw [Bool.eq_iff_iff, matchesHost_single_iff_of_not_blank h',
    matchesHost_single_iff_of_not_blank h, Host.normalize_eq_of_fold_eq hhost.fold_eq,
    hname.fold_eq]

/-- **Case and surrounding blanks do not matter.**  For a host that is not blank, and any set of
texts, the verdict stays the same when the host is replaced by its trimmed lower-case form, or any
number of the names by theirs, or both.  For any host and any set of texts it stays the same when
the case of any ASCII letters is changed anywhere in the host and in the names. -/
theorem matchesHost_of_spelling (strict : Bool) {host host' : Text}
    {commons commons' alts alts' : List Text} :
    (host.trim ≠ [] → Tidied host host' → List.Forall₂ Tidied commons commons' →
      List.Forall₂ Tidied alts alts' →
      (ofTexts commons' alts').matchesHost strict host' =
        (ofTexts commons alts).matchesHost strict host) ∧
    (Recased host host' → List.Forall₂ Recased commons commons' → List.Forall₂ Recased alts alts' →
      (ofTexts commons' alts').matchesHost strict host' =
        (ofTexts commons alts).matchesHost strict host) := by
  constructor
  · intro h hhost hcommons halts
    exact matchesHost_of_forall₂ (fun _ _ => matchesHost_single_of_tidied h hhost) hcommons halts
  · intro hhost hcommons halts
    exact matchesHost_of_forall₂ (fun _ _ => matchesHost_single_of_recased hhost) hcommons halts

/-- The names below a domain with a final capital sigma, which is not the end of a word here. -/
def streetNames : IdentitySet := ofTexts ["\u3000".toList] ["*.ΟΔΟΣ.GR\u00A0".toList]

/-- They match a host below that domain, however the two are typed.  The common name is of blanks
and disappears when it is trimmed. -/
theorem matchesHost_streetNames :
    (ofTexts [[]] ["*.οδοσ.gr".toList]).matchesHost true "www.οδοσ.gr".toList =
      streetNames.matchesHost true "\tWWW.ΟΔΟΣ.GR".toList ∧
    (ofTexts ["\u3000".toList] ["*.ΟΔΟΣ.gr\u00A0".toList]).matchesHost true
        "\tWww.ΟΔΟΣ.gR".toList =
      streetNames.matchesHost true "\tWWW.ΟΔΟΣ.GR".toList ∧
    streetNames.matchesHost true "\tWWW.ΟΔΟΣ.GR".toList = true := by
  refine ⟨?_, ?_, by decide +kernel⟩
  · exact (matchesHost_of_spelling true).1 (by decide) (by decide +kernel)
      (.cons (by decide +kernel) .nil) (.cons (by decide +kernel) .nil)
  · exact (matchesHost_of_spelling true).2 (by decide) (.cons (by decide) .nil)
      (.cons (by decide) .nil)

-- A host of blanks is matched by a name of blanks, and no longer when that has been trimmed.
example : (ofTexts [] [" ".toList]).matchesHost true " ".toList = true ∧
    (ofTexts [] [Text.fold " ".toList]).matchesHost true " ".toList = false := by
  decide +kernel

end IdentitySet

end PeerTrust
