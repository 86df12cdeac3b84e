import PeerTrust.Text.Basic

/-!
Requests for ciphers.

Which ciphers are enabled, and in which order, is asked for by one text.  Its items are separated
by colons, blanks, commas or semicolons and are obeyed from left to right:

* `NAME` adds a cipher behind those selected before;
* `-NAME` takes a cipher out, `+NAME` moves it behind all others, and `!NAME` takes it out for good;
* `@STRENGTH` sorts what is selected by the length of the key, and `@SECLEVEL=` with a digit up to
  five asks for a level of security, which has no effect on the selection.

Names that are joined by `+` stand for what they have in common.  Ciphers are selected by their full
names only, so that is nothing unless it is one name repeated.  An item that names an unknown cipher
is passed over, whatever follows up to the next separator.  A request that cannot be read at all has
no selection, which is different from an empty one.

The libraries behind contexts also know words for groups of ciphers, such as `HIGH`, and what these
select depends on the build.  That is not followed here: a request with such a word is read as if
the word were unknown, and what is proved of the selection is proved of requests without them.
-/

namespace PeerTrust

/-- A cipher, by its name and the number of bits in its key. -/
structure Cipher where
  name : Text
  keyBits : Nat
deriving DecidableEq, Repr

/-- The ciphers that a context knows. -/
structure CipherTable where
  /-- Always enabled, before all others. -/
  fixed : List Text
  /-- Enabled on request. -/
  selectable : List Cipher
  /-- Words that stand for groups of ciphers. -/
  groups : List Text

/-- The selectable cipher with this name. -/
def CipherTable.find? (table : CipherTable) (name : Text) : Option Cipher :=
  table.selectable.find? (·.name == name)

/-- What a request has selected so far. -/
structure CipherSelection where
  /-- The selected ciphers, in the order of preference. -/
  selected : List Cipher := []
  /-- Ciphers that no later item can select. -/
  banned : List Cipher := []
deriving DecidableEq

namespace CipherSelection

/-- The selection with a cipher at its end, unless it is selected already or banned. -/
def add (s : CipherSelection) (c : Cipher) : CipherSelection :=
  if s.selected.contains c || s.banned.contains c then s
  else { s with selected := s.selected ++ [c] }

/-- The selection without a cipher. -/
def remove (s : CipherSelection) (c : Cipher) : CipherSelection :=
  { s with selected := s.selected.erase c }

/-- The selection with a cipher moved to its end, if it is selected. -/
def demote (s : CipherSelection) (c : Cipher) : CipherSelection :=
  if s.selected.contains c then { s with selected := s.selected.erase c ++ [c] } else s

/-- The selection without a cipher, now and later. -/
def ban (s : CipherSelection) (c : Cipher) : CipherSelection :=
  { selected := s.selected.erase c, banned := c :: s.banned }

/-- The selection with the longest keys first, otherwise in its order. -/
def strongestFirst (s : CipherSelection) : CipherSelection :=
  { s with selected := s.selected.mergeSort fun a b => b.keyBits ≤ a.keyBits }

end CipherSelection

namespace CipherRequest

/-! ## Items -/

/-- Items are separated by this character. -/
def isSeparator (c : Char) : Bool := c == ':' || c == ' ' || c == ',' || c == ';'

/-- The character can stand in a name. -/
def isNameCharacter (c : Char) : Bool := c.isAlphanum || c == '-' || c == '.' || c == '='

/-- What stands from the next separator on. -/
def fromSeparator (s : Text) : Text := s.dropWhile (!isSeparator ·)

theorem fromSeparator_length_le (s : Text) : (fromSeparator s).length ≤ s.length :=
  (List.dropWhile_suffix _).length_le

/-- The cipher that is common to the joined names at the front of a text, if they are one known
name, and what follows them.  Nothing where a name is missing. -/
def commonCipher? (table : CipherTable) (common : Option Cipher) (s : Text) :
    Option (Option Cipher × Text) :=
  if (s.takeWhile isNameCharacter).isEmpty then none
  else
    match table.find? (s.takeWhile isNameCharacter) with
    | none => some (none, fromSeparator (s.dropWhile isNameCharacter))
    | some c =>
      if common.any (· != c) then some (none, fromSeparator (s.dropWhile isNameCharacter))
      else
        match _h : s.dropWhile isNameCharacter with
        | '+' :: more => commonCipher? table (some c) more
        | rest => some (some c, rest)
termination_by s.length
decreasing_by
  have := (List.dropWhile_suffix (l := s) isNameCharacter).length_le
  simp only [_h, List.length_cons] at this
  omega

/-- Reading a name takes something off a text that starts with one. -/
theorem dropWhile_isNameCharacter_length_lt {s : Text}
    (h : ¬(s.takeWhile isNameCharacter).isEmpty = true) :
    (s.dropWhile isNameCharacter).length < s.length := by
  have hlength :=
    congrArg List.length (List.takeWhile_append_dropWhile (p := isNameCharacter) (l := s))
  rw [List.isEmpty_iff] at h
  have hname := List.length_pos_iff.2 h
  rw [List.length_append] at hlength
  omega

theorem commonCipher?_length_lt {table : CipherTable} {common r : Option Cipher} {s rest : Text}
    (h : commonCipher? table common s = some (r, rest)) : rest.length < s.length := by
  fun_induction commonCipher? table common s with
  | case1 => simp at h
  | case2 common s hs _ =>
    simp only [Option.some.injEq, Prod.mk.injEq] at h
    obtain ⟨-, rfl⟩ := h
    exact Nat.lt_of_le_of_lt (fromSeparator_length_le _) (dropWhile_isNameCharacter_length_lt hs)
  | case3 common s hs c _ _ =>
    simp only [Option.some.injEq, Prod.mk.injEq] at h
    obtain ⟨-, rfl⟩ := h
    exact Nat.lt_of_le_of_lt (fromSeparator_length_le _) (dropWhile_isNameCharacter_length_lt hs)
  | case4 common s hs c _ _ more hmore ih =>
    have hshorter := dropWhile_isNameCharacter_length_lt hs
    rw [hmore, List.length_cons] at hshorter
    have hrest := ih h
    omega
  | case5 common s hs c _ _ _ =>
    simp only [Option.some.injEq, Prod.mk.injEq] at h
    obtain ⟨-, rfl⟩ := h
    exact dropWhile_isNameCharacter_length_lt hs

/-- What a directive does to the selection, if there is such a directive. -/
def directive? (word : Text) : Option (CipherSelection → CipherSelection) :=
  if word = "STRENGTH".toList then some (·.strongestFirst)
  else if ['0', '1', '2', '3', '4', '5'].any fun level => word = "SECLEVEL=".toList ++ [level] then
    some id
  else none

/-- What an operator in front of a name does with the cipher, if the character is an operator. -/
def operator? : Char → Option (CipherSelection → Cipher → CipherSelection)
  | '-' => some .remove
  | '+' => some .demote
  | '!' => some .ban
  | _ => none

/-- What the item does that a request starts with, and what follows it.  Nothing where there is no
way to read an item. -/
def item? (table : CipherTable) (c : Char) (cs : Text) :
    Option ((CipherSelection → CipherSelection) × Text) :=
  if isSeparator c then some (id, cs)
  else if c = '@' then
    (directive? (cs.takeWhile isNameCharacter)).map fun f =>
      (f, fromSeparator (cs.dropWhile isNameCharacter))
  else
    match operator? c with
    | some act => (commonCipher? table none cs).map fun (cipher?, rest) =>
        (fun s => (cipher?.map (act s)).getD s, rest)
    | none => (commonCipher? table none (c :: cs)).map fun (cipher?, rest) =>
        (fun s => (cipher?.map s.add).getD s, rest)

/-- An item takes at least its first character. -/
theorem item?_length_le {table : CipherTable} {c : Char} {cs rest : Text}
    {f : CipherSelection → CipherSelection} (h : item? table c cs = some (f, rest)) :
    rest.length ≤ cs.length := by
  unfold item? at h
  split at h
  · simp only [Option.some.injEq, Prod.mk.injEq] at h
    simp [h.2]
  · split at h
    · simp only [Option.map_eq_some_iff, Prod.mk.injEq] at h
      obtain ⟨_, -, -, rfl⟩ := h
      have := fromSeparator_length_le (cs.dropWhile isNameCharacter)
      have := (List.dropWhile_suffix (l := cs) isNameCharacter).length_le
      omega
    · split at h
      · simp only [Option.map_eq_some_iff, Prod.mk.injEq] at h
        obtain ⟨⟨_, _⟩, hc, -, rfl⟩ := h
        exact Nat.le_of_lt (commonCipher?_length_lt hc)
      · simp only [Option.map_eq_some_iff, Prod.mk.injEq] at h
        obtain ⟨⟨_, _⟩, hc, -, rfl⟩ := h
        exact Nat.le_of_lt_succ (commonCipher?_length_lt hc)

/-! ## Requests -/

/-- The selection after the items of a request, unless it cannot be read. -/
def run? (table : CipherTable) : (request : Text) → CipherSelection → Option CipherSelection
  | [], s => some s
  | c :: cs, s =>
    match _h : item? table c cs with
    | none => none
    | some (f, rest) => run? table rest (f s)
termination_by request => request.length
decreasing_by
  have := item?_length_le _h
  simp only [List.length_cons]
  omega

/-- The ciphers that a request selects from a table, unless it cannot be read. -/
def select? (table : CipherTable) (request : Text) : Option (List Text) :=
  (run? table request {}).map fun s => s.selected.map (·.name)

end CipherRequest

end PeerTrust
