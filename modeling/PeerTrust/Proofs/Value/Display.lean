import PeerTrust.Proofs.Text.Cuts
import PeerTrust.Proofs.Text.Lower
import PeerTrust.Value.Basic

/-!
How the text of a value starts.

Where a name is wanted a value of any kind may be given, and it is then taken for the text that
shows it.  A text is what it is and an object says what it likes, but the other kinds are written
out by rules.  Whether such a text can be mistaken for a name is a question about all numbers, all
words for values and all collections, however deep, and it is answered by the first characters
alone.  A collection starts with its bracket, a number with a digit or a point, and the few words
with one of five letters; only a minus sign may stand before that (`Value.opens_display`).

Numbers are looked at to their end only once, to tell them from dotted addresses: a number has one
point at most, or an exponent (`Value.trim_display_ne_dotted`).
-/

namespace PeerTrust

/-! ## The first character -/

/-- The text of a value that has none of its own starts with the character, apart from a sign. -/
def IsOpener (c : Char) : Prop :=
  c.isDigit = true ∨ c ∈ ['.', 'e', 'T', 'F', 'N', 'i', 'n', '[', '(', '\x7b']

instance (c : Char) : Decidable (IsOpener c) := inferInstanceAs (Decidable (_ ∨ _))

theorem toNat_of_isDigit {c : Char} (h : c.isDigit = true) : 0x30 ≤ c.toNat ∧ c.toNat ≤ 0x39 := by
  unfold Char.isDigit at h
  rw [Bool.and_eq_true, decide_eq_true_eq, decide_eq_true_eq] at h
  exact ⟨UInt32.le_iff_toNat_le.1 h.1, UInt32.le_iff_toNat_le.1 h.2⟩

theorem IsOpener.ascii {c : Char} (h : IsOpener c) : c.toNat < 0x80 := by
  rcases h with hdigit | hlisted
  · have := (toNat_of_isDigit hdigit).2
    omega
  · have hall : ∀ c ∈ ['.', 'e', 'T', 'F', 'N', 'i', 'n', '[', '(', '\x7b'], c.toNat < 0x80 := by
      simp
    exact hall c hlisted

/-- What holds of the ASCII characters that open the text of a value holds of all that do. -/
theorem IsOpener.induction {P : Char → Prop}
    (h : ∀ n < 0x80, IsOpener (Char.ofNat n) → P (Char.ofNat n)) {c : Char} (hc : IsOpener c) :
    P c :=
  Text.of_ascii (P := fun c => IsOpener c → P c) h hc.ascii hc

theorem IsOpener.not_blank {c : Char} (h : IsOpener c) : isBlank c = false :=
  IsOpener.induction (P := fun c => isBlank c = false) (by decide) h

/-! ## Numbers -/

namespace Decimal

variable {d : Decimal} {digits : Text} {place : Int} {c : Char}

theorem isDigit_of_mem_digits (h : c ∈ d.digits) : c.isDigit = true := by
  unfold Decimal.digits at h
  split at h
  · exact absurd h List.not_mem_nil
  · rw [List.mem_reverse] at h
    have hmem := (List.dropWhile_sublist _).subset h
    exact Nat.isDigit_of_mem_toDigits (by decide) (by decide) (List.mem_reverse.1 hmem)

/-- A positional number has one point, between digits. -/
theorem exists_positional (h : ∀ c ∈ digits, c.isDigit = true) :
    ∃ front back, positional digits place = front ++ '.' :: back ∧
      ∀ c ∈ front ++ back, c.isDigit = true := by
  have hzeros : ∀ n, ∀ c ∈ List.replicate n '0', c.isDigit = true := by
    intro n c hc
    rw [List.eq_of_mem_replicate hc]
    rfl
  have hpadded : ∀ c ∈ List.replicate (1 - place).toNat '0' ++ digits, c.isDigit = true := by
    intro c hc
    rcases List.mem_append.1 hc with hc | hc
    · exact hzeros _ c hc
    · exact h c hc
  refine ⟨_, _, rfl, fun c hc => ?_⟩
  rcases List.mem_append.1 hc with hfront | hback
  · rcases List.mem_append.1 hfront with hc | hc
    · exact hpadded c (List.mem_of_mem_take hc)
    · exact hzeros _ c hc
  · split at hback
    · rw [List.mem_singleton.1 hback]
      rfl
    · exact hpadded c (List.mem_of_mem_drop hback)

/-- A number in exponent form has digits and perhaps a point before the exponent. -/
theorem exists_scientific (h : ∀ c ∈ digits, c.isDigit = true) :
    ∃ front back, scientific digits place = front ++ 'e' :: back ∧
      ∀ c ∈ front, c = '.' ∨ c.isDigit = true := by
  refine ⟨_, _, rfl, fun c hc => ?_⟩
  rcases List.mem_append.1 hc with hfirst | hrest
  · exact .inr (h c (List.mem_of_mem_take hfirst))
  · split at hrest
    · exact absurd hrest List.not_mem_nil
    · rcases List.mem_cons.1 hrest with rfl | hc
      · exact .inl rfl
      · exact .inr (h c (List.mem_of_mem_drop hc))

theorem display_cases (d : Decimal) :
    (∃ front back, d.display = front ++ '.' :: back ∧ ∀ c ∈ front ++ back, c.isDigit = true) ∨
      ∃ front back, d.display = front ++ 'e' :: back ∧
        ∀ c ∈ front, c = '.' ∨ c.isDigit = true := by
  unfold display
  split
  · exact .inl (exists_positional fun c hc => isDigit_of_mem_digits hc)
  · exact .inr (exists_scientific fun c hc => isDigit_of_mem_digits hc)

end Decimal

/-- The character opens a text that has it behind characters that do. -/
theorem exists_opener_of_append {front back : Text} {d : Char}
    (hfront : ∀ c ∈ front, IsOpener c) (hd : IsOpener d) :
    ∃ c rest, front ++ d :: back = c :: rest ∧ IsOpener c := by
  cases front with
  | nil => exact ⟨d, back, rfl, hd⟩
  | cons c front => exact ⟨c, front ++ d :: back, rfl, hfront c List.mem_cons_self⟩

theorem Decimal.exists_opener (d : Decimal) : ∃ c rest, d.display = c :: rest ∧ IsOpener c := by
  rcases d.display_cases with ⟨front, back, hdisplay, hdigits⟩ | ⟨front, back, hdisplay, hfront⟩
  · rw [hdisplay]
    exact exists_opener_of_append (fun c hc => .inl (hdigits c (List.mem_append_left back hc)))
      (by decide)
  · rw [hdisplay]
    refine exists_opener_of_append (fun c hc => ?_) (by decide)
    rcases hfront c hc with rfl | hdigit
    · decide
    · exact .inl hdigit

theorem exists_opener_toDigits (n : Nat) :
    ∃ c rest, Nat.toDigits 10 n = c :: rest ∧ IsOpener c := by
  obtain ⟨c, rest, hcons⟩ := List.exists_cons_of_ne_nil (Nat.toDigits_ne_nil (n := n) (b := 10))
  have hmem : c ∈ Nat.toDigits 10 n := by simp [hcons]
  exact ⟨c, rest, hcons, .inl (Nat.isDigit_of_mem_toDigits (by decide) (by decide) hmem)⟩

/-! ## Values -/

namespace Value

variable {v : Value}

/-- The text starts like that of a value that has none of its own. -/
def Opens (s : Text) : Prop :=
  ∃ c rest, (s = c :: rest ∨ s = '-' :: c :: rest) ∧ IsOpener c

theorem opens_of_signed {s : Text} (negative : Prop) [Decidable negative]
    (h : ∃ c rest, s = c :: rest ∧ IsOpener c) :
    Opens ((if negative then ['-'] else []) ++ s) := by
  obtain ⟨c, rest, rfl, hc⟩ := h
  split
  · exact ⟨c, rest, .inr rfl, hc⟩
  · exact ⟨c, rest, .inl rfl, hc⟩

theorem opens_display (h : v.ownText? = none) : Opens v.display := by
  cases v with
  | text s => cases h
  | object o => cases h
  | null => exact ⟨'N', _, .inl rfl, by decide⟩
  | bool b =>
    cases b
    · exact ⟨'F', _, .inl rfl, by decide⟩
    · exact ⟨'T', _, .inl rfl, by decide⟩
  | int n => exact opens_of_signed (n < 0) (exists_opener_toDigits n.natAbs)
  | floating x =>
    cases x with
    | finite negative size => exact opens_of_signed (negative = true) size.exists_opener
    | infinite negative =>
      exact opens_of_signed (negative = true) ⟨'i', _, rfl, by decide⟩
    | undefined => exact ⟨'n', _, .inl rfl, by decide⟩
  | list items => exact ⟨'[', _, .inl rfl, by decide⟩
  | tuple items => exact ⟨'(', _, .inl rfl, by decide⟩
  | table entries => exact ⟨'\x7b', _, .inl rfl, by decide⟩

theorem Opens.ne_nil {s : Text} (h : Opens s) : s ≠ [] := by
  obtain ⟨c, rest, rfl | rfl, -⟩ := h
  · exact List.cons_ne_nil c rest
  · exact List.cons_ne_nil '-' _

/-- Neither the sign nor what stands behind it is a blank. -/
theorem Opens.trim {s : Text} (h : Opens s) : Opens s.trim := by
  obtain ⟨c, rest, rfl | rfl, hc⟩ := h
  · exact ⟨c, _, .inl (Text.trim_cons hc.not_blank), hc⟩
  · refine ⟨c, rest.rdropWhile isBlank, .inr ?_, hc⟩
    rw [Text.trim_cons (by decide)]
    exact congrArg ('-' :: ·) (Text.rdropWhile_append_cons (s := []) hc.not_blank)

/-! ## Numbers and dotted addresses -/

theorem point_not_mem_of_isDigit {s : Text} (h : ∀ c ∈ s, c.isDigit = true) : '.' ∉ s :=
  fun hmem => absurd (h '.' hmem) (by decide)

theorem point_not_mem_sign (negative : Prop) [Decidable negative] :
    '.' ∉ (if negative then ['-'] else [] : Text) := by
  split <;> decide

theorem point_not_mem_intText (n : Int) : '.' ∉ intText n := by
  intro hmem
  rcases List.mem_append.1 hmem with hsign | hdigits
  · exact point_not_mem_sign (n < 0) hsign
  · have hdigit := Nat.isDigit_of_mem_toDigits (by decide) (by decide) hdigits
    exact absurd hdigit (by decide)

theorem count_point_or_exponent_mem (negative : Bool) (size : Decimal) :
    (Floating.finite negative size).display.count '.' = 1 ∨
      'e' ∈ (Floating.finite negative size).display := by
  rw [Floating.display]
  rcases size.display_cases with ⟨front, back, hdisplay, hdigits⟩ | ⟨front, back, hdisplay, -⟩
  · have hpoint := point_not_mem_of_isDigit hdigits
    rw [List.mem_append, not_or] at hpoint
    refine .inl ?_
    rw [hdisplay, List.count_append, List.count_append, List.count_cons_self,
      List.count_eq_zero.2 (point_not_mem_sign _), List.count_eq_zero.2 hpoint.1,
      List.count_eq_zero.2 hpoint.2]
  · rw [hdisplay]
    exact .inr (List.mem_append_right _ (List.mem_append_right front List.mem_cons_self))

theorem trim_cons_ne {c : Char} {s t : Text} (hc : isBlank c = false) (ht : t.head? ≠ some c) :
    Text.trim (c :: s) ≠ t := by
  rintro rfl
  exact ht (by rw [Text.trim_cons hc, List.head?_cons])

/-- A number has too few points for a dotted address, or an exponent. -/
theorem trim_display_finite_ne_dotted (negative : Bool) (size : Decimal) :
    (Floating.finite negative size).display.trim ≠ "127.0.0.1".toList := by
  intro hdotted
  rcases count_point_or_exponent_mem negative size with hcount | hexponent
  · -- Trimming adds no points, and the address has three.
    obtain ⟨before, after, hs, -⟩ :=
      Text.exists_eq_append_trim (Floating.finite negative size).display
    rw [hs, hdotted, List.count_append, List.count_append] at hcount
    have hthree : "127.0.0.1".toList.count '.' = 3 := by decide
    omega
  · have hmem := (Text.mem_trim_iff (by decide)).2 hexponent
    rw [hdotted] at hmem
    exact absurd hmem (by decide)

/-- No value of the other kinds of data reads like a dotted address. -/
theorem trim_display_ne_dotted (h : v.ownText? = none) :
    v.display.trim ≠ "127.0.0.1".toList := by
  intro hdotted
  cases v with
  | text s => cases h
  | object o => cases h
  | null => exact absurd hdotted (by decide)
  | bool b => cases b <;> exact absurd hdotted (by decide)
  | int n =>
    have hpoint : '.' ∈ Text.trim (intText n) := by
      change '.' ∈ Text.trim (display (int n))
      rw [hdotted]
      decide
    exact point_not_mem_intText n (Text.mem_of_mem_trim hpoint)
  | floating x =>
    cases x with
    | finite negative size => exact trim_display_finite_ne_dotted negative size hdotted
    | infinite negative => cases negative <;> exact absurd hdotted (by decide)
    | undefined => exact absurd hdotted (by decide)
  | list items => exact trim_cons_ne (by decide) (by decide) hdotted
  | tuple items => exact trim_cons_ne (by decide) (by decide) hdotted
  | table entries => exact trim_cons_ne (by decide) (by decide) hdotted

end Value

end PeerTrust
