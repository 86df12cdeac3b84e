import PeerTrust.Proofs.Text.Fold

/-!
The case of Latin letters.

The plain case map changes the capital Latin letters and nothing else, one at a time and whatever
is around them.  Trimming and lower-casing do not see it.  A letter is as blank as its capital, and
to the rule of the final sigma, which looks at the neighbours of a letter, the two are the same; the
letter itself they take to one form.  So the comparable form of a text is that of the text with its
Latin letters in lower case (`fold_map_toLower`), also when there are letters of other alphabets
between them.
-/

namespace PeerTrust

/-! ## Characters -/

/-- Only letters change, and only into letters. -/
theorem toLower_cases (c : Char) :
    c.toLower = c ∨ c.toLower.isAlpha = true ∧ c.isAlpha = true := by
  -- The ASCII characters are few enough to be looked at one by one; the others stay.
  by_cases h : c.toNat < 0x80
  · exact Text.of_ascii
      (P := fun c => c.toLower = c ∨ c.toLower.isAlpha = true ∧ c.isAlpha = true) (by decide) h
  · exact .inl (toLower_of_not_ascii (Nat.le_of_not_lt h))

theorem toLower_eq_iff {d : Char} (hd : d.isAlpha = false) (c : Char) :
    c.toLower = d ↔ c = d := by
  constructor
  · rintro rfl
    rcases toLower_cases c with hsame | ⟨halpha, -⟩
    · exact hsame.symm
    · rw [hd] at halpha
      cases halpha
  · rintro rfl
    rcases toLower_cases c with hsame | ⟨-, halpha⟩
    · exact hsame
    · rw [hd] at halpha
      cases halpha

/-- A text without letters is what it is in either case. -/
theorem map_toLower_eq_iff {s t : Text} (ht : ∀ c ∈ t, c.isAlpha = false) :
    s.map Char.toLower = t ↔ s = t := by
  constructor
  · rintro rfl
    refine (List.map_id s).symm.trans (List.map_congr_left fun c hc => ?_)
    rcases toLower_cases c with hsame | ⟨halpha, -⟩
    · exact hsame.symm
    · rw [ht _ (List.mem_map_of_mem hc)] at halpha
      cases halpha
  · rintro rfl
    refine (List.map_congr_left fun c hc => ?_).trans (List.map_id s)
    rw [(toLower_eq_iff (ht c hc) c).2 rfl]
    rfl

theorem ascii_toLower {c : Char} (h : c.toNat < 0x80) : c.toLower.toNat < 0x80 :=
  Text.of_ascii (P := fun c => c.toLower.toNat < 0x80) (by decide) h

/-- What takes every ASCII letter and its capital to one value does not see the plain case map. -/
theorem apply_toLower {α : Type} {f : Char → α}
    (h : ∀ n < 0x80, f (Char.ofNat n).toLower = f (Char.ofNat n)) (c : Char) :
    f c.toLower = f c := by
  by_cases hascii : c.toNat < 0x80
  · exact Text.of_ascii (P := fun c => f c.toLower = f c) h hascii
  · rw [toLower_of_not_ascii (Nat.le_of_not_lt hascii)]

theorem toLower_toLower (c : Char) : c.toLower.toLower = c.toLower := apply_toLower (by decide) c

theorem lowerChar_toLower (c : Char) : lowerChar c.toLower = lowerChar c := by
  by_cases hascii : c.toNat < 0x80
  · rw [Text.lowerChar_of_ascii (ascii_toLower hascii), Text.lowerChar_of_ascii hascii,
      toLower_toLower]
  · rw [toLower_of_not_ascii (Nat.le_of_not_lt hascii)]

/-! ## Classes of characters -/

section Ranges

variable {ranges : List (Nat × Nat)} {c : Char}

/-- Of a sorted table an ASCII character meets the first few ranges only. -/
theorem inRanges_of_ascii (few : Nat) (h : ∀ r ∈ ranges.drop few, 0x80 ≤ r.1)
    (hc : c.toNat < 0x80) : inRanges ranges c = inRanges (ranges.take few) c := by
  have hbeyond : inRanges (ranges.drop few) c = false := by
    rw [← Bool.not_eq_true, inRanges_iff]
    rintro ⟨r, hr, hfirst, -⟩
    have := h r hr
    omega
  unfold inRanges at hbeyond ⊢
  conv_lhs => rw [← List.take_append_drop few ranges, List.any_append, hbeyond, Bool.or_false]

theorem inRanges_toLower (few : Nat) (h : ∀ r ∈ ranges.drop few, 0x80 ≤ r.1)
    (hfew : ∀ n < 0x80, inRanges (ranges.take few) (Char.ofNat n).toLower =
      inRanges (ranges.take few) (Char.ofNat n)) :
    inRanges ranges c.toLower = inRanges ranges c := by
  by_cases hascii : c.toNat < 0x80
  · rw [inRanges_of_ascii few h (ascii_toLower hascii), inRanges_of_ascii few h hascii]
    exact apply_toLower hfew c
  · rw [toLower_of_not_ascii (Nat.le_of_not_lt hascii)]

theorem isBlank_toLower : isBlank c.toLower = isBlank c :=
  inRanges_toLower 2 (by decide) (by decide)

theorem isCaseIgnorable_toLower : isCaseIgnorable c.toLower = isCaseIgnorable c :=
  inRanges_toLower 5 (by decide +kernel) (by decide)

theorem isCased_toLower : isCased c.toLower = isCased c :=
  inRanges_toLower 2 (by decide +kernel) (by decide)

end Ranges

/-! ## Texts -/

namespace Text

theorem trim_map_toLower (s : Text) : trim (s.map Char.toLower) = s.trim.map Char.toLower := by
  have hblank : isBlank ∘ Char.toLower = isBlank := funext fun _ => isBlank_toLower
  unfold trim
  rw [List.dropWhile_map, ← List.map_reverse, List.dropWhile_map, ← List.map_reverse, hblank]

theorem meetsCased_map_toLower (s : Text) : meetsCased (s.map Char.toLower) = meetsCased s := by
  have hignorable : isCaseIgnorable ∘ Char.toLower = isCaseIgnorable :=
    funext fun _ => isCaseIgnorable_toLower
  unfold meetsCased
  rw [List.dropWhile_map, hignorable]
  cases s.dropWhile isCaseIgnorable with
  | nil => rfl
  | cons c rest => exact isCased_toLower

theorem lowerAt_map_toLower (before : Text) (c : Char) (after : Text) :
    lowerAt (before.map Char.toLower) c.toLower (after.map Char.toLower) =
      lowerAt before c after := by
  have hsigma : c.toLower = 'Σ' ↔ c = 'Σ' := toLower_eq_iff (by decide) c
  unfold lowerAt lowerSigma
  simp only [hsigma, meetsCased_map_toLower, lowerChar_toLower]

theorem lowerAfter_map_toLower (before s : Text) :
    lowerAfter (before.map Char.toLower) (s.map Char.toLower) = lowerAfter before s := by
  -- What precedes is mapped along with the text.
  induction s generalizing before with
  | nil => rfl
  | cons c rest ih =>
    rw [List.map_cons, lowerAfter_cons, lowerAfter_cons, lowerAt_map_toLower, ← List.map_cons, ih]

/-- The comparable form of a text does not depend on the case of its Latin letters. -/
theorem fold_map_toLower (s : Text) : fold (s.map Char.toLower) = s.fold := by
  unfold fold lower
  rw [trim_map_toLower]
  exact lowerAfter_map_toLower [] s.trim

end Text

end PeerTrust
