/-!
Texts, classes of characters, and the few cuts that the rest of the library makes in a text.

Host names, certificate names and URLs are taken apart character by character, so a text is a
list of code points and every cut is one of the list operations: trimming drops blanks at both
ends, a text is split at every separator by `List.splitOn`, and `upTo`, `past?` and `pastLast`
cut once, at the first or at the last occurrence of a delimiter.

A class of the Unicode database is a finite union of closed ranges of code points.  It is stored as
the list of its ranges, and membership is a search through that list.
-/

namespace PeerTrust

/-! ## Classes of characters -/

/-- The character lies in one of the closed ranges of code points. -/
def inRanges (ranges : List (Nat × Nat)) (c : Char) : Bool :=
  ranges.any fun (first, last) => first ≤ c.toNat && c.toNat ≤ last

/-- Membership in a class means that some range of its table encloses the code point. -/
theorem inRanges_iff {ranges : List (Nat × Nat)} {c : Char} :
    inRanges ranges c = true ↔ ∃ r ∈ ranges, r.1 ≤ c.toNat ∧ c.toNat ≤ r.2 := by
  simp [inRanges, List.any_eq_true]

/-! ### Blanks

What may be trimmed from the two ends of a name and may not stand in a URL is the white space of the
Unicode database together with the four separators U+001C to U+001F.  The class is wider than the
ASCII class of `Char.isWhitespace`, which it includes (`isBlank_of_isWhitespace`), and it leaves out
the characters that merely take no room: the zero-width space U+200B, the word joiner U+2060 and the
byte order mark U+FEFF are not blank. -/

/-- The ranges of blank characters. -/
def blankRanges : List (Nat × Nat) :=
  [(0x0009, 0x000D), (0x001C, 0x0020), (0x0085, 0x0085), (0x00A0, 0x00A0), (0x1680, 0x1680),
   (0x2000, 0x200A), (0x2028, 0x2029), (0x202F, 0x202F), (0x205F, 0x205F), (0x3000, 0x3000)]

/-- The character is white space or one of the four ASCII separators. -/
def isBlank (c : Char) : Bool := inRanges blankRanges c

/-- The character is white space in the narrow sense: blank, but not an ASCII separator. -/
def isWhiteSpace (c : Char) : Bool := isBlank c && !inRanges [(0x001C, 0x001F)] c

/-- All ASCII white space is blank. -/
theorem isBlank_of_isWhitespace {c : Char} (h : c.isWhitespace = true) : isBlank c = true := by
  simp only [Char.isWhitespace, Bool.or_eq_true, decide_eq_true_eq] at h
  rcases h with ((h | h) | h) | h <;> subst h <;> decide

/-! ### Digits -/

/-- The value of a digit of base sixteen. -/
def digitValue? (c : Char) : Option Nat :=
  if '0' ≤ c ∧ c ≤ '9' then some (c.toNat - '0'.toNat)
  else if 'a' ≤ c ∧ c ≤ 'f' then some (c.toNat - 'a'.toNat + 10)
  else if 'A' ≤ c ∧ c ≤ 'F' then some (c.toNat - 'A'.toNat + 10)
  else none

/-- A text, as the list of its code points. -/
abbrev Text := List Char

namespace Text

/-! ## Trimming -/

/-- The text without the blanks at its two ends. -/
def trim (s : Text) : Text := ((s.dropWhile isBlank).reverse.dropWhile isBlank).reverse

/-- Nothing but blanks, or nothing at all. -/
def isAllBlank (s : Text) : Bool := s.all isBlank

/-! ## Cutting at a delimiter -/

/-- What stands before the first delimiter; the whole text when there is none. -/
def upTo (delimiter : Char) (s : Text) : Text := s.takeWhile (· != delimiter)

/-- What follows the first delimiter, if there is one. -/
def past? (delimiter : Char) (s : Text) : Option Text := (s.dropWhile (· != delimiter)).tail?

/-- What follows the last delimiter; the whole text when there is none. -/
def pastLast (delimiter : Char) (s : Text) : Text :=
  (s.reverse.takeWhile (· != delimiter)).reverse

/-- What stands before the last delimiter, if there is one. -/
def upToLast? (delimiter : Char) (s : Text) : Option Text :=
  (past? delimiter s.reverse).map List.reverse

/-! ## Numerals

A numeral is a non-empty run of ASCII digits of some base up to sixteen, with no sign and no
separator; the letters of the digits above nine may have either case.  It is the counterpart of
`Nat.toDigits`, which writes the same numerals with small letters. -/

/-- Goes on reading digits of `base` after digits of the value `acc`. -/
def readDigits? (base acc : Nat) : Text → Option Nat
  | [] => some acc
  | c :: cs =>
    match digitValue? c with
    | some d => if d < base then readDigits? base (acc * base + d) cs else none
    | none => none

/-- The value of a numeral of `base`. -/
def numeral? (base : Nat) (s : Text) : Option Nat :=
  if s.isEmpty then none else readDigits? base 0 s

/-! ## Small lemmas -/

@[simp] theorem trim_nil : trim [] = [] := rfl

/-- The two sides of the first cut, put together again. -/
theorem upTo_append_past? {delimiter : Char} {s rest : Text} (h : past? delimiter s = some rest) :
    upTo delimiter s ++ delimiter :: rest = s := by
  induction s with
  | nil => simp [past?] at h
  | cons c cs ih =>
    by_cases hc : c = delimiter
    · subst hc
      simp [past?] at h
      simp [upTo, h]
    · have hne : (c != delimiter) = true := by simpa using hc
      simp only [past?, List.dropWhile_cons, hne, if_true] at h
      simp only [upTo, List.takeWhile_cons, hne, if_true, List.cons_append]
      exact congrArg (c :: ·) (ih h)

/-- The text before the first delimiter has none. -/
theorem not_mem_upTo (delimiter : Char) (s : Text) : delimiter ∉ upTo delimiter s := by
  intro h
  have := List.all_takeWhile (p := (· != delimiter)) (l := s)
  rw [List.all_eq_true] at this
  simpa using this _ h

end Text

end PeerTrust
