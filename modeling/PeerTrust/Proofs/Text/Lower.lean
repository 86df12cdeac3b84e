import PeerTrust.Text.Lower

/-!
Which characters lower-casing can bring about.

Whatever is written in capitals, its lower-case form is made of characters of the text itself, of
small Latin letters and of characters beyond ASCII (`mem_lower_cases`).  So no delimiter, digit or
control character comes into a text by lower-casing, and a name that was free of them stays so.
The tables are consulted once, for the range in which each stretch of them lies.

Lower-casing looks at the context of a sigma, so the form of a text is not made of the forms of its
parts.  It is where the parts meet at a character that ends every word (`lower_append_barrier`),
and the marks that delimit an address, brackets and the percent sign, are such characters.
-/

namespace PeerTrust

/-! ## The lower-case form of one character -/

/-- A small Latin letter, or no ASCII character at all. -/
def IsLowered (c : Char) : Prop := (0x61 ≤ c.toNat ∧ c.toNat ≤ 0x7A) ∨ 0x80 ≤ c.toNat

instance (c : Char) : Decidable (IsLowered c) :=
  inferInstanceAs (Decidable (_ ∨ _))

/-- The targets of a stretch lie among the small Latin letters or beyond ASCII, and all on one side
of the code points that are no characters. -/
def CaseRun.Tame (r : CaseRun) : Prop :=
  ((0x61 ≤ r.target ∧ r.target + (r.last - r.first) ≤ 0x7A) ∨ 0x80 ≤ r.target) ∧
  (r.target + (r.last - r.first) < 0xD800 ∨
    (0xE000 ≤ r.target ∧ r.target + (r.last - r.first) < 0x110000))

instance (r : CaseRun) : Decidable r.Tame := inferInstanceAs (Decidable (_ ∧ _))

theorem tame_of_mem_caseRuns : ∀ r ∈ caseRuns, r.Tame := by decide +kernel

theorem toNat_ofNat_of_isValidChar {n : Nat} (h : n.isValidChar) : (Char.ofNat n).toNat = n := by
  unfold Char.ofNat
  rw [dif_pos h]
  rfl

theorem CaseRun.covers_iff {r : CaseRun} {n : Nat} :
    r.covers n = true ↔ r.first ≤ n ∧ n ≤ r.last ∧ (n - r.first) % r.stride = 0 := by
  unfold CaseRun.covers
  rw [Bool.and_eq_true, Bool.and_eq_true, decide_eq_true_eq, decide_eq_true_eq, beq_iff_eq,
    and_assoc]

/-- Only a code point of a character survives the way into a character and back. -/
theorem CaseRun.Tame.toNat_lower {r : CaseRun} (h : r.Tame) {n : Nat} (hn : r.covers n = true) :
    (Char.ofNat (r.lower n)).toNat = r.lower n := by
  obtain ⟨hfirst, hlast, -⟩ := CaseRun.covers_iff.1 hn
  refine toNat_ofNat_of_isValidChar ?_
  unfold CaseRun.lower
  rcases h.2 with hbelow | ⟨habove, hmax⟩
  · exact .inl (by omega)
  · exact .inr ⟨by omega, by omega⟩

theorem CaseRun.Tame.isLowered {r : CaseRun} (h : r.Tame) {n : Nat} (hn : r.covers n = true) :
    IsLowered (Char.ofNat (r.lower n)) := by
  obtain ⟨hfirst, hlast, -⟩ := CaseRun.covers_iff.1 hn
  have hrange := h.1
  unfold IsLowered
  rw [h.toNat_lower hn]
  unfold CaseRun.lower
  omega

/-- The lower-case form of a character is the character itself or brings in lowered ones only. -/
theorem mem_lowerChar_cases {c d : Char} (h : d ∈ lowerChar c) : d = c ∨ IsLowered d := by
  unfold lowerChar at h
  split at h
  · right
    rcases List.mem_cons.1 h with rfl | h
    · decide
    · rw [List.mem_singleton.1 h]
      decide
  · split at h
    · next run hrun =>
      have hcovers : run.covers c.toNat = true := (List.find?_eq_some_iff_append.1 hrun).1
      rw [List.mem_singleton.1 h]
      exact .inr ((tame_of_mem_caseRuns run (List.mem_of_find?_eq_some hrun)).isLowered hcovers)
    · exact .inl (List.mem_singleton.1 h)

theorem lowerChar_ne_nil (c : Char) : lowerChar c ≠ [] := by
  unfold lowerChar
  split
  · exact List.cons_ne_nil _ _
  · split <;> exact List.cons_ne_nil _ _

/-- Outside ASCII the plain case map leaves everything as it is. -/
theorem toLower_of_not_ascii {c : Char} (h : 0x80 ≤ c.toNat) : c.toLower = c := by
  unfold Char.toLower
  rw [dif_neg]
  rintro ⟨-, hmax⟩
  have hle : c.toNat ≤ 0x5A := UInt32.le_iff_toNat_le.1 hmax
  omega

theorem ascii_of_toLower {c : Char} (h : c.toLower.toNat < 0x80) : c.toNat < 0x80 := by
  refine Nat.lt_of_not_le fun hbeyond => ?_
  rw [toLower_of_not_ascii hbeyond] at h
  omega

/-! ## The lower-case form of a text -/

namespace Text

theorem isLowered_lowerSigma (before after : Text) : IsLowered (lowerSigma before after) := by
  unfold lowerSigma
  split <;> decide

/-- The lower-case form of a character in its context. -/
def lowerAt (before : Text) (c : Char) (after : Text) : Text :=
  if c = 'Σ' then [lowerSigma before after] else lowerChar c

theorem lowerAfter_cons (before : Text) (c : Char) (rest : Text) :
    lowerAfter before (c :: rest) = lowerAt before c rest ++ lowerAfter (c :: before) rest := rfl

theorem mem_lowerAt_cases {before after : Text} {c d : Char} (h : d ∈ lowerAt before c after) :
    d = c ∨ IsLowered d := by
  unfold lowerAt at h
  split at h
  · rw [List.mem_singleton.1 h]
    exact .inr (isLowered_lowerSigma before after)
  · exact mem_lowerChar_cases h

theorem lowerAt_ne_nil (before : Text) (c : Char) (after : Text) : lowerAt before c after ≠ [] := by
  unfold lowerAt
  split
  · exact List.cons_ne_nil _ _
  · exact lowerChar_ne_nil c

/-- The characters of a text in lower case are those of the lower-case forms of its characters, each
of them in its place. -/
theorem mem_lowerAfter_iff {before s : Text} {d : Char} :
    d ∈ lowerAfter before s ↔
      ∃ front c back, s = front ++ c :: back ∧ d ∈ lowerAt (front.reverse ++ before) c back := by
  induction s generalizing before with
  | nil => simp [lowerAfter]
  | cons c rest ih =>
    rw [lowerAfter_cons, List.mem_append, ih]
    constructor
    · rintro (hhere | ⟨front, c', back, rfl, hd⟩)
      · exact ⟨[], c, rest, rfl, hhere⟩
      · refine ⟨c :: front, c', back, rfl, ?_⟩
        rwa [List.reverse_cons, List.append_assoc, List.singleton_append]
    · rintro ⟨front, c', back, hs, hd⟩
      cases front with
      | nil =>
        obtain ⟨rfl, rfl⟩ := List.cons.inj hs
        exact .inl hd
      | cons first front =>
        obtain ⟨rfl, rfl⟩ := List.cons.inj hs
        rw [List.reverse_cons, List.append_assoc, List.singleton_append] at hd
        exact .inr ⟨front, c', back, rfl, hd⟩

/-- A character of a text in lower case stood in the text, or is a small Latin letter, or is no
ASCII character. -/
theorem mem_lower_cases {s : Text} {d : Char} (h : d ∈ s.lower) : d ∈ s ∨ IsLowered d := by
  obtain ⟨front, c, back, rfl, hd⟩ := mem_lowerAfter_iff.1 h
  rcases mem_lowerAt_cases hd with rfl | hlowered
  · exact .inl (List.mem_append_right front List.mem_cons_self)
  · exact .inr hlowered

/-- A character that is nobody's lower-case form is not brought in by lower-casing. -/
theorem not_mem_lower {s : Text} {d : Char} (h : d ∉ s) (hd : ¬ IsLowered d) : d ∉ s.lower :=
  fun hmem => (mem_lower_cases hmem).elim h hd

/-- A character without case is kept. -/
theorem mem_lower_of_mem {s : Text} {d : Char} (hd : lowerChar d = [d]) (hsigma : d ≠ 'Σ')
    (h : d ∈ s) : d ∈ s.lower := by
  obtain ⟨front, back, rfl⟩ := List.append_of_mem h
  refine mem_lowerAfter_iff.2 ⟨front, d, back, rfl, ?_⟩
  unfold lowerAt
  rw [if_neg hsigma, hd]
  exact List.mem_singleton_self d

/-- A character that is nobody's lower-case form but its own comes and goes with the text. -/
theorem mem_lower_iff {s : Text} {d : Char} (hd : lowerChar d = [d]) (hlowered : ¬ IsLowered d) :
    d ∈ s.lower ↔ d ∈ s := by
  have hsigma : d ≠ 'Σ' := by
    rintro rfl
    exact hlowered (by decide)
  constructor
  · intro h
    exact (mem_lower_cases h).resolve_right hlowered
  · exact mem_lower_of_mem hd hsigma

theorem lower_ne_nil {s : Text} (h : s ≠ []) : s.lower ≠ [] := by
  obtain ⟨c, rest, rfl⟩ := List.exists_cons_of_ne_nil h
  unfold lower
  rw [lowerAfter_cons]
  exact List.append_ne_nil_of_left_ne_nil (lowerAt_ne_nil [] c rest) _

/-- A first character without case stays the first. -/
theorem head?_lower {s : Text} {d : Char} (hd : lowerChar d = [d]) (hsigma : d ≠ 'Σ')
    (h : s.head? = some d) : s.lower.head? = some d := by
  obtain ⟨rest, rfl⟩ := List.head?_eq_some_iff.1 h
  unfold lower
  rw [lowerAfter_cons, lowerAt, if_neg hsigma, hd]
  rfl

/-! ## ASCII -/

/-- What holds of the first code points holds of the ASCII characters. -/
theorem of_ascii {P : Char → Prop} (h : ∀ n < 0x80, P (Char.ofNat n)) {c : Char}
    (hc : c.toNat < 0x80) : P c := by
  have hchar := h c.toNat hc
  rwa [Char.ofNat_toNat] at hchar

/-- The stretch of the capital Latin letters. -/
def latinRun : CaseRun := ⟨0x41, 0x5A, 1, 0x61⟩

theorem ascii_lt_first : ∀ r ∈ caseRuns.tail, 0x80 ≤ r.first := by decide +kernel

/-- Only the first stretch holds ASCII characters. -/
theorem find?_caseRuns_of_ascii {n : Nat} (h : n < 0x80) :
    caseRuns.find? (·.covers n) = if latinRun.covers n then some latinRun else none := by
  have hcons : caseRuns = latinRun :: caseRuns.tail := rfl
  have hbeyond : caseRuns.tail.find? (·.covers n) = none := by
    rw [List.find?_eq_none]
    intro r hr hcovers
    obtain ⟨hfirst, -, -⟩ := CaseRun.covers_iff.1 hcovers
    have := ascii_lt_first r hr
    omega
  rw [hcons, List.find?_cons, hbeyond]
  cases latinRun.covers n <;> rfl

theorem lowerChar_of_ascii {c : Char} (h : c.toNat < 0x80) : lowerChar c = [c.toLower] := by
  have hdotted : c ≠ '\u0130' := by
    rintro rfl
    exact absurd h (by decide)
  have hlatin : c.toLower =
      if latinRun.covers c.toNat then Char.ofNat (latinRun.lower c.toNat) else c :=
    of_ascii (P := fun c => c.toLower =
      if latinRun.covers c.toNat then Char.ofNat (latinRun.lower c.toNat) else c) (by decide) h
  unfold lowerChar
  rw [if_neg hdotted, find?_caseRuns_of_ascii h, hlatin]
  cases latinRun.covers c.toNat <;> rfl

theorem lowerAfter_of_ascii {before s : Text} (h : ∀ c ∈ s, c.toNat < 0x80) :
    lowerAfter before s = s.map Char.toLower := by
  induction s generalizing before with
  | nil => rfl
  | cons c rest ih =>
    obtain ⟨hc, hrest⟩ := List.forall_mem_cons.1 h
    have hsigma : c ≠ 'Σ' := by
      rintro rfl
      exact absurd hc (by decide)
    rw [lowerAfter_cons, lowerAt, if_neg hsigma, lowerChar_of_ascii hc, ih hrest]
    rfl

/-- In an ASCII text only the capital Latin letters change, and each by itself. -/
theorem lower_of_ascii {s : Text} (h : ∀ c ∈ s, c.toNat < 0x80) : s.lower = s.map Char.toLower :=
  lowerAfter_of_ascii h

/-! ## Texts put together -/

/-- The character is kept, and it ends the word on either side of it. -/
def IsBarrier (b : Char) : Prop :=
  lowerChar b = [b] ∧ b ≠ 'Σ' ∧ isCaseIgnorable b = false ∧ isCased b = false

instance (b : Char) : Decidable (IsBarrier b) := inferInstanceAs (Decidable (_ ∧ _))

section Barrier

variable {b : Char} (hb : IsBarrier b) (before s far : Text)
include hb

/-- Nothing beyond a barrier is looked at. -/
theorem meetsCased_append_barrier : meetsCased (s ++ b :: far) = meetsCased s := by
  obtain ⟨-, -, hignorable, hcased⟩ := hb
  unfold meetsCased
  rw [List.dropWhile_append]
  cases s.dropWhile isCaseIgnorable with
  | nil =>
    rw [List.isEmpty_nil, if_pos rfl, List.dropWhile_cons_of_neg (by rw [hignorable]; decide)]
    exact hcased
  | cons c rest =>
    rw [List.isEmpty_cons, if_neg Bool.false_ne_true]
    rfl

theorem lowerAt_append_barrier (c : Char) :
    lowerAt before c (s ++ b :: far) = lowerAt before c s := by
  unfold lowerAt lowerSigma
  rw [meetsCased_append_barrier hb s far]

theorem lowerAt_of_barrier_before (c : Char) :
    lowerAt (before ++ b :: far) c s = lowerAt before c s := by
  unfold lowerAt lowerSigma
  rw [meetsCased_append_barrier hb before far]

theorem lowerAfter_append_barrier :
    lowerAfter before (s ++ b :: far) =
      lowerAfter before s ++ b :: lowerAfter (b :: (s.reverse ++ before)) far := by
  -- What precedes grows along the walk, so the induction is for every `before`.
  induction s generalizing before with
  | nil =>
    rw [List.nil_append, lowerAfter_cons, lowerAt, if_neg hb.2.1, hb.1]
    rfl
  | cons c rest ih =>
    rw [List.cons_append, lowerAfter_cons, lowerAt_append_barrier hb, ih, lowerAfter_cons,
      List.append_assoc, List.reverse_cons, List.append_assoc]
    rfl

theorem lowerAfter_of_barrier_before :
    lowerAfter (before ++ b :: far) s = lowerAfter before s := by
  induction s generalizing before with
  | nil => rfl
  | cons c rest ih =>
    rw [lowerAfter_cons, lowerAfter_cons, lowerAt_of_barrier_before hb, ← List.cons_append, ih]

/-- Texts that meet at a barrier are lowered each by itself. -/
theorem lower_append_barrier : (s ++ b :: far).lower = s.lower ++ b :: far.lower := by
  have hfar : lowerAfter ([] ++ b :: s.reverse) far = lowerAfter [] far :=
    lowerAfter_of_barrier_before hb [] far s.reverse
  unfold lower
  rw [lowerAfter_append_barrier hb, List.append_nil, ← hfar, List.nil_append]

end Barrier

end Text

end PeerTrust
