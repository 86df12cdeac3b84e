import PeerTrust.Identity.Matching
import PeerTrust.Proofs.Text.Cuts

/-!
Wildcards, label by label.

A wildcard is decided on flat texts: an ending is compared and what stands before it is looked at.
What is meant are lists of labels, and the two agree because the ending starts with a full stop,
so that it cannot cut a label in two (`covers_iff`).
-/

namespace PeerTrust.Wildcard

variable {strict : Bool} {identity host : Text} {front ending : List Text}

/-- The labels of the identity are an asterisk and `ending`, acceptable as what stands behind an
asterisk, and the labels of the host are `front` and the same `ending`, with no empty label in
`front`. -/
structure Covering (identity host : Text) (front ending : List Text) : Prop where
  identity_labels : identity.splitOn '.' = ['*'] :: ending
  two_le_length : 2 ≤ ending.length
  asterisk_not_mem : ∀ label ∈ ending, '*' ∉ label
  no_registry : coversRegistry (['*'] :: ending) = false
  host_labels : host.splitOn '.' = front ++ ending
  front_ne_nil : front ≠ []
  label_ne_nil : ∀ label ∈ front, label ≠ []

/-! ## The identity -/

theorem eq_of_splitOn (h : identity.splitOn '.' = ['*'] :: ending) (hne : ending ≠ []) :
    identity = '*' :: '.' :: ['.'].intercalate ending := by
  rw [← @List.intercalate_splitOn _ identity _ _ '.', h, List.intercalate_cons_of_ne_nil hne]
  rfl

theorem count_asterisk :
    ('*' :: '.' :: ['.'].intercalate ending).count '*' = 1 ↔ ∀ label ∈ ending, '*' ∉ label := by
  rw [List.count_cons_self, List.count_cons_of_ne (by decide), Nat.add_eq_right,
    List.count_eq_zero]
  constructor
  · intro h label hlabel hmem
    exact h (Text.mem_intercalate_of_mem hlabel hmem)
  · intro h hmem
    rcases Text.mem_intercalate_cases hmem with hdot | ⟨label, hlabel, hmem⟩
    · exact absurd hdot (by decide)
    · exact h label hlabel hmem

theorem isAcceptable_iff :
    isAcceptable identity = true ↔ ∃ ending, identity.splitOn '.' = ['*'] :: ending ∧
      2 ≤ ending.length ∧ (∀ label ∈ ending, '*' ∉ label) ∧
      coversRegistry (['*'] :: ending) = false := by
  unfold isAcceptable
  dsimp only
  rw [Bool.and_eq_true, Bool.and_eq_true, Bool.and_eq_true, beq_iff_eq, beq_iff_eq,
    decide_eq_true_eq, Bool.not_eq_true']
  constructor
  · rintro ⟨⟨⟨hcount, hhead⟩, hlength⟩, hregistry⟩
    obtain ⟨ending, hlabels⟩ := List.head?_eq_some_iff.1 hhead
    rw [hlabels] at hlength hregistry
    have htwo : 2 ≤ ending.length := Nat.le_of_succ_le_succ hlength
    have hne : ending ≠ [] := List.ne_nil_of_length_pos (by omega)
    rw [eq_of_splitOn hlabels hne] at hcount
    exact ⟨ending, hlabels, htwo, count_asterisk.1 hcount, hregistry⟩
  · rintro ⟨ending, hlabels, htwo, hasterisk, hregistry⟩
    have hne : ending ≠ [] := List.ne_nil_of_length_pos (by omega)
    rw [hlabels]
    refine ⟨⟨⟨?_, rfl⟩, Nat.succ_le_succ htwo⟩, hregistry⟩
    rw [eq_of_splitOn hlabels hne]
    exact count_asterisk.2 hasterisk

/-! ## The host -/

theorem beforeSuffix?_eq_some_iff {suffix front : Text} :
    beforeSuffix? suffix host = some front ↔ host = front ++ suffix := by
  unfold beforeSuffix?
  constructor
  · intro h
    split at h
    · next hsuffix =>
      obtain ⟨front', rfl⟩ := List.isSuffixOf_iff_suffix.1 hsuffix
      rw [List.length_append, Nat.add_sub_cancel, List.take_left] at h
      rw [Option.some.inj h]
    · cases h
  · rintro rfl
    rw [if_pos (List.isSuffixOf_iff_suffix.2 (List.suffix_append _ _)), List.length_append,
      Nat.add_sub_cancel, List.take_left]

theorem isCoverable_iff {text : Text} :
    isCoverable strict text = true ↔ (∀ label ∈ text.splitOn '.', label ≠ []) ∧
      (strict = true → (text.splitOn '.').length = 1) := by
  have hone : '.' ∉ text ↔ (text.splitOn '.').length = 1 := by
    constructor
    · intro h
      rw [List.splitOn_eq_singleton h]
      rfl
    · intro h hmem
      obtain ⟨before, after, rfl⟩ := List.append_of_mem hmem
      have hbefore := List.length_pos_iff.2 (List.splitOn_ne_nil '.' before)
      have hafter := List.length_pos_iff.2 (List.splitOn_ne_nil '.' after)
      rw [List.splitOn_append_cons_self, List.length_append] at h
      omega
  unfold isCoverable
  rw [Bool.and_eq_true, List.all_eq_true, ← hone]
  refine and_congr (forall₂_congr fun label _ => ?_) ?_
  · rw [Bool.not_eq_true', List.isEmpty_eq_false_iff]
  · cases strict <;> simp

/-- An ending of labels is an ending of the text with a full stop in front of it. -/
theorem splitOn_eq_append_iff (hne : ending ≠ []) (hdot : ∀ label ∈ ending, '.' ∉ label) :
    (∃ text, host = text ++ '.' :: ['.'].intercalate ending ∧ text.splitOn '.' = front) ↔
      host.splitOn '.' = front ++ ending ∧ front ≠ [] := by
  constructor
  · rintro ⟨text, rfl, rfl⟩
    rw [List.splitOn_append_cons_self, List.splitOn_intercalate '.' hdot hne]
    exact ⟨rfl, List.splitOn_ne_nil '.' text⟩
  · rintro ⟨hlabels, hfront⟩
    refine ⟨['.'].intercalate front, ?_, ?_⟩
    · rw [← Text.intercalate_append hfront hne, ← hlabels, List.intercalate_splitOn]
    · refine List.splitOn_intercalate '.' (fun label hlabel => ?_) hfront
      exact Text.not_mem_of_mem_splitOn (hlabels ▸ List.mem_append_left ending hlabel)

/-! ## Both -/

/-- An identity covers a host when their labels agree behind the asterisk, and in strict mode the
asterisk stands for one label. -/
theorem covers_iff :
    covers strict identity host = true ↔
      ∃ front ending, Covering identity host front ending ∧
        (strict = true → front.length = 1) := by
  unfold covers
  rw [Bool.and_eq_true, isAcceptable_iff]
  constructor
  · rintro ⟨⟨ending, hlabels, htwo, hasterisk, hregistry⟩, hcovered⟩
    have hne : ending ≠ [] := List.ne_nil_of_length_pos (by omega)
    have hdot : ∀ label ∈ ending, '.' ∉ label := fun label hlabel =>
      Text.not_mem_of_mem_splitOn (hlabels ▸ List.mem_cons_of_mem _ hlabel)
    -- Behind the asterisk stands the ending with a full stop in front of it.
    rw [eq_of_splitOn hlabels hne, List.tail_cons] at hcovered
    split at hcovered
    · next text htext =>
      obtain ⟨hlabel, hstrict⟩ := isCoverable_iff.1 hcovered
      obtain ⟨hhost, hfront⟩ :=
        (splitOn_eq_append_iff hne hdot).1 ⟨text, beforeSuffix?_eq_some_iff.1 htext, rfl⟩
      exact ⟨text.splitOn '.', ending,
        ⟨hlabels, htwo, hasterisk, hregistry, hhost, hfront, hlabel⟩, hstrict⟩
    · cases hcovered
  · rintro ⟨front, ending, h, hstrict⟩
    have hne : ending ≠ [] := List.ne_nil_of_length_pos (by have := h.two_le_length; omega)
    have hdot : ∀ label ∈ ending, '.' ∉ label := fun label hlabel =>
      Text.not_mem_of_mem_splitOn (h.identity_labels ▸ List.mem_cons_of_mem _ hlabel)
    obtain ⟨text, htext, rfl⟩ :=
      (splitOn_eq_append_iff hne hdot).2 ⟨h.host_labels, h.front_ne_nil⟩
    refine ⟨⟨ending, h.identity_labels, h.two_le_length, h.asterisk_not_mem, h.no_registry⟩, ?_⟩
    rw [eq_of_splitOn h.identity_labels hne, List.tail_cons,
      beforeSuffix?_eq_some_iff.2 htext]
    exact isCoverable_iff.2 ⟨h.label_ne_nil, hstrict⟩

-- Two labels for the asterisk, and a registry behind it.
example : covers false "*.example.com".toList "a.b.example.com".toList = true := by decide
example : covers true "*.example.com".toList "a.b.example.com".toList = false := by decide
example : covers false "*.co.uk".toList "a.co.uk".toList = false := by decide

/-- A host that a wildcard covers has at least three labels. -/
theorem Covering.dot_mem (h : Covering identity host front ending) : '.' ∈ host := by
  refine Text.mem_of_one_lt_length_splitOn ?_
  have hfront := List.length_pos_iff.2 h.front_ne_nil
  have hending := h.two_le_length
  rw [h.host_labels, List.length_append]
  omega

end PeerTrust.Wildcard
