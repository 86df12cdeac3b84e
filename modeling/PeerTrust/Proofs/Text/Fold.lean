import PeerTrust.Proofs.Text.Cuts
import PeerTrust.Proofs.Text.Lower

/-!
A text in lower case stays as it is.

Names are brought into comparable form more than once on their way, each time without looking
whether that has been done before.  It makes no difference: no lower-case form is a capital letter
again, and lower-casing makes no blank out of anything else, so trimming and lower-casing a second
time changes nothing (`fold_fold`).

Both are facts about the table of capital letters.  Its stretches are compared in pairs: the small
letters of one lie outside of the other, or they are the small letters of an alternating alphabet.
-/

namespace PeerTrust

/-! ## The stretches -/

namespace CaseRun

variable {r r' : CaseRun} {n : Nat}

/-- The small letters of the first stretch are no capital letters of the second: they lie behind it
or in front of it, or they are the small letters between its capital ones. -/
def misses (r r' : CaseRun) : Bool :=
  Nat.blt r'.last r.target || Nat.blt (r.lower r.last) r'.first ||
    (r'.stride == 2 && (r.stride == 2 || r.first == r.last) && r.target % 2 != r'.first % 2)

theorem all_misses : (caseRuns.all fun r => caseRuns.all r.misses) = true := by decide +kernel

theorem not_covers_of_misses (h : r.misses r' = true) (hn : r.covers n = true) :
    r'.covers (r.lower n) = false := by
  rw [← Bool.not_eq_true, covers_iff]
  rintro ⟨hfirst', hlast', hstride'⟩
  obtain ⟨hfirst, hlast, hstride⟩ := covers_iff.1 hn
  unfold misses at h
  simp only [lower, Bool.or_eq_true, Nat.blt_eq, Bool.and_eq_true, beq_iff_eq, bne_iff_ne] at *
  rcases h with (hbehind | hfront) | ⟨⟨htwo', htwo | hsingle⟩, hparity⟩
  · omega
  · omega
  · -- All small letters of the one have the same parity, and it is not that of the other.
    rw [htwo'] at hstride'
    rw [htwo] at hstride
    omega
  · rw [htwo'] at hstride'
    omega

theorem toNat_lower_bounds (hr : r ∈ caseRuns) (hn : r.covers n = true) :
    r.target ≤ (Char.ofNat (r.lower n)).toNat ∧
      (Char.ofNat (r.lower n)).toNat ≤ r.lower r.last := by
  obtain ⟨hfirst, hlast, -⟩ := covers_iff.1 hn
  rw [(tame_of_mem_caseRuns r hr).toNat_lower hn]
  unfold lower
  omega

/-- The dotted capital letter, which is in no stretch, is the small letter of none either. -/
theorem dotted_not_lower :
    ∀ r ∈ caseRuns, r.lower r.last < 0x130 ∨ 0x130 < r.target := by
  decide +kernel

theorem blank_not_lower : ∀ r ∈ caseRuns, ∀ range ∈ blankRanges,
    r.lower r.last < range.1 ∨ range.2 < r.target := by
  decide +kernel

/-- Behind the Latin stretch only the Kelvin sign has an ASCII character for its small letter. -/
theorem ascii_not_lower :
    ∀ r ∈ caseRuns.tail, 0x80 ≤ r.target ∨ (r.first = r.last ∧ r.target = 'k'.toNat) := by
  decide +kernel

end CaseRun

/-! ## One character -/

/-- The character is its own lower-case form. -/
def IsSmall (c : Char) : Prop := lowerChar c = [c]

instance (c : Char) : Decidable (IsSmall c) := inferInstanceAs (Decidable (_ = _))

theorem isSmall_of_not_covers {c : Char} (hdotted : c ≠ '\u0130')
    (h : ∀ r ∈ caseRuns, r.covers c.toNat = false) : IsSmall c := by
  have hnone : caseRuns.find? (·.covers c.toNat) = none := by
    simpa only [List.find?_eq_none, Bool.not_eq_true] using h
  unfold IsSmall lowerChar
  rw [if_neg hdotted, hnone]

theorem CaseRun.isSmall_lower {r : CaseRun} {n : Nat} (hr : r ∈ caseRuns)
    (hn : r.covers n = true) : IsSmall (Char.ofNat (r.lower n)) := by
  refine isSmall_of_not_covers (fun hdotted => ?_) fun r' hr' => ?_
  · obtain ⟨hlow, hhigh⟩ := CaseRun.toNat_lower_bounds hr hn
    have hcode : ('\u0130').toNat = 0x130 := rfl
    have houtside := CaseRun.dotted_not_lower r hr
    rw [hdotted, hcode] at hlow hhigh
    omega
  · have hmisses := List.all_eq_true.1 (List.all_eq_true.1 CaseRun.all_misses r hr) r' hr'
    rw [(tame_of_mem_caseRuns r hr).toNat_lower hn]
    exact CaseRun.not_covers_of_misses hmisses hn

namespace Text

variable {before after s : Text} {c d : Char}

/-- A character of a lower-case form is the character itself, if it has no other, or one of the few
that are written out, or the small letter of a stretch. -/
theorem mem_lowerAt_sources (h : d ∈ lowerAt before c after) :
    (d = c ∧ IsSmall c) ∨ (d = 'ς' ∨ d = 'σ' ∨ d = 'i' ∨ d = '\u0307') ∨
      ∃ r ∈ caseRuns, r.covers c.toNat = true ∧ d = Char.ofNat (r.lower c.toNat) := by
  unfold lowerAt at h
  split at h
  · rw [List.mem_singleton.1 h]
    unfold lowerSigma
    split <;> simp
  · unfold lowerChar at h
    split at h
    · simp only [List.mem_cons, List.not_mem_nil, or_false] at h
      exact .inr (.inl (.inr (.inr h)))
    · next hdotted =>
      split at h
      · next run hrun =>
        exact .inr (.inr ⟨run, List.mem_of_find?_eq_some hrun,
          (List.find?_eq_some_iff_append.1 hrun).1, List.mem_singleton.1 h⟩)
      · next hnone =>
        refine .inl ⟨List.mem_singleton.1 h, ?_⟩
        unfold IsSmall lowerChar
        rw [if_neg hdotted, hnone]

theorem isSmall_of_mem_lowerAt (h : d ∈ lowerAt before c after) : IsSmall d := by
  rcases mem_lowerAt_sources h with ⟨rfl, hsmall⟩ | hwritten | ⟨r, hr, hcovers, rfl⟩
  · exact hsmall
  · rcases hwritten with rfl | rfl | rfl | rfl <;> decide +kernel
  · exact CaseRun.isSmall_lower hr hcovers

theorem not_blank_of_mem_lowerAt (h : d ∈ lowerAt before c after) (hc : isBlank c = false) :
    isBlank d = false := by
  rcases mem_lowerAt_sources h with ⟨rfl, -⟩ | hwritten | ⟨r, hr, hcovers, rfl⟩
  · exact hc
  · rcases hwritten with rfl | rfl | rfl | rfl <;> decide
  · rw [← Bool.not_eq_true]
    intro hblank
    obtain ⟨range, hrange, hlow, hhigh⟩ := inRanges_iff.1 hblank
    have hbounds := CaseRun.toNat_lower_bounds hr hcovers
    have houtside := CaseRun.blank_not_lower r hr range hrange
    omega

/-- A lower-case form in ASCII is that of an ASCII character, unless it is the `k` of the Kelvin
sign.  The form of the dotted capital starts with an `i`, but a mark beyond ASCII follows. -/
theorem ascii_of_lowerAt (h : ∀ d ∈ lowerAt before c after, d.toNat < 0x80 ∧ d ≠ 'k') :
    c.toNat < 0x80 := by
  unfold lowerAt at h
  split at h
  · have hsigma := (h _ List.mem_cons_self).1
    unfold lowerSigma at hsigma
    split at hsigma <;> exact absurd hsigma (by decide)
  · unfold lowerChar at h
    split at h
    · exact absurd (h '\u0307' (List.mem_cons_of_mem _ List.mem_cons_self)).1 (by decide)
    · split at h
      · next run hrun =>
        have hcovers : run.covers c.toNat = true := (List.find?_eq_some_iff_append.1 hrun).1
        have hmem : run ∈ latinRun :: caseRuns.tail := List.mem_of_find?_eq_some hrun
        obtain ⟨hfirst, hlast, -⟩ := CaseRun.covers_iff.1 hcovers
        obtain ⟨hascii, hkelvin⟩ := h _ List.mem_cons_self
        rcases List.mem_cons.1 hmem with rfl | htail
        · exact lt_of_le_of_lt hlast (by decide)
        · exfalso
          rcases CaseRun.ascii_not_lower run htail with htarget | ⟨hsingle, htarget⟩
          · have := (CaseRun.toNat_lower_bounds (List.mem_of_find?_eq_some hrun) hcovers).1
            omega
          · have hlower : run.lower c.toNat = 'k'.toNat := by
              unfold CaseRun.lower
              omega
            rw [hlower, Char.ofNat_toNat] at hkelvin
            exact hkelvin rfl
      · exact (h c List.mem_cons_self).1

/-! ## Texts -/

theorem isSmall_of_mem_lower (h : d ∈ s.lower) : IsSmall d := by
  obtain ⟨front, c, back, -, hd⟩ := mem_lowerAfter_iff.1 h
  exact isSmall_of_mem_lowerAt hd

theorem not_blank_of_mem_lower (h : ∀ c ∈ s, isBlank c = false) :
    ∀ d ∈ s.lower, isBlank d = false := by
  intro d hd
  obtain ⟨front, c, back, rfl, hmem⟩ := mem_lowerAfter_iff.1 hd
  exact not_blank_of_mem_lowerAt hmem (h c (List.mem_append_right front List.mem_cons_self))

theorem ascii_of_lower (h : ∀ d ∈ s.lower, d.toNat < 0x80 ∧ d ≠ 'k') : ∀ c ∈ s, c.toNat < 0x80 := by
  intro c hc
  obtain ⟨front, back, rfl⟩ := List.append_of_mem hc
  exact ascii_of_lowerAt fun d hd => h d (mem_lowerAfter_iff.2 ⟨front, c, back, rfl, hd⟩)

/-- An ASCII text without a `k` is the lower-case form of those texts only that it is without
regard to the case of Latin letters. -/
theorem lower_eq_iff {t : Text} (h : ∀ c ∈ t, c.toNat < 0x80 ∧ c ≠ 'k') :
    s.lower = t ↔ s.map Char.toLower = t := by
  constructor
  · rintro rfl
    exact (lower_of_ascii (ascii_of_lower h)).symm
  · rintro rfl
    exact lower_of_ascii fun c hc => ascii_of_toLower (h _ (List.mem_map_of_mem hc)).1

theorem lowerAfter_of_isSmall (h : ∀ c ∈ s, IsSmall c) : lowerAfter before s = s := by
  induction s generalizing before with
  | nil => rfl
  | cons c rest ih =>
    obtain ⟨hc, hrest⟩ := List.forall_mem_cons.1 h
    have hsigma : c ≠ 'Σ' := by
      rintro rfl
      exact absurd hc (by decide +kernel)
    unfold IsSmall at hc
    rw [lowerAfter_cons, lowerAt, if_neg hsigma, hc, ih hrest, List.singleton_append]

theorem exists_mem_head?_of_lower (h : d ∈ s.lower.head?) :
    ∃ c ∈ s.head?, ∃ before after, d ∈ lowerAt before c after := by
  cases s with
  | nil => cases h
  | cons c rest =>
    refine ⟨c, rfl, [], rest, ?_⟩
    rw [lower, lowerAfter_cons, List.head?_append_of_ne_nil _ (lowerAt_ne_nil [] c rest)] at h
    exact List.mem_of_mem_head? h

theorem lowerAfter_concat (before front : Text) (c : Char) :
    ∃ init, lowerAfter before (front ++ [c]) = init ++ lowerAt (front.reverse ++ before) c [] := by
  induction front generalizing before with
  | nil => exact ⟨[], List.append_nil _⟩
  | cons first front ih =>
    obtain ⟨init, hinit⟩ := ih (first :: before)
    refine ⟨lowerAt before first (front ++ [c]) ++ init, ?_⟩
    rw [List.cons_append, lowerAfter_cons, hinit, List.append_assoc, List.reverse_cons,
      List.append_assoc, List.singleton_append]

theorem exists_mem_getLast?_of_lower (h : d ∈ s.lower.getLast?) :
    ∃ c ∈ s.getLast?, ∃ before after, d ∈ lowerAt before c after := by
  induction s using List.reverseRecOn with
  | nil => cases h
  | append_singleton front c _ =>
    obtain ⟨init, hinit⟩ := lowerAfter_concat [] front c
    refine ⟨c, List.getLast?_concat, front.reverse ++ [], [], ?_⟩
    rw [lower, hinit, List.getLast?_append_of_ne_nil _ (lowerAt_ne_nil _ c [])] at h
    exact List.mem_of_getLast? h

theorem head?_of_lower (hd : ¬ IsLowered d) (h : s.lower.head? = some d) : s.head? = some d := by
  obtain ⟨c, hc, before, after, hmem⟩ := exists_mem_head?_of_lower h
  rw [(mem_lowerAt_cases hmem).resolve_right hd]
  exact hc

theorem getLast?_of_lower (hd : ¬ IsLowered d) (h : s.lower.getLast? = some d) :
    s.getLast? = some d := by
  obtain ⟨c, hc, before, after, hmem⟩ := exists_mem_getLast?_of_lower h
  rw [(mem_lowerAt_cases hmem).resolve_right hd]
  exact hc

theorem IsTrimmed.lower (h : IsTrimmed s) : IsTrimmed s.lower := by
  constructor
  · intro d hd
    obtain ⟨c, hc, before, after, hmem⟩ := exists_mem_head?_of_lower hd
    exact not_blank_of_mem_lowerAt hmem (h.head_not_blank c hc)
  · intro d hd
    obtain ⟨c, hc, before, after, hmem⟩ := exists_mem_getLast?_of_lower hd
    exact not_blank_of_mem_lowerAt hmem (h.last_not_blank c hc)

theorem isTrimmed_fold (s : Text) : IsTrimmed s.fold := (isTrimmed_trim s).lower

theorem fold_eq_self (htrimmed : IsTrimmed s) (hsmall : ∀ c ∈ s, IsSmall c) : s.fold = s := by
  unfold fold lower
  rw [htrimmed.trim_eq, lowerAfter_of_isSmall hsmall]

/-- A name in comparable form is in comparable form already. -/
theorem fold_fold (s : Text) : s.fold.fold = s.fold :=
  fold_eq_self (isTrimmed_fold s) fun _ h => isSmall_of_mem_lower h

theorem fold_eq_nil_iff : s.fold = [] ↔ s.trim = [] := by
  unfold fold
  refine ⟨fun h => ?_, fun h => by rw [h, lower_nil]⟩
  by_contra hne
  exact lower_ne_nil hne h

theorem mem_fold_iff (hd : IsSmall d) (hlowered : ¬ IsLowered d) (hblank : isBlank d = false) :
    d ∈ s.fold ↔ d ∈ s := by
  unfold fold
  rw [mem_lower_iff hd hlowered, mem_trim_iff hblank]

end Text

end PeerTrust
