import PeerTrust.Text.Basic
import PeerTrust.Text.Casing

/-!
Lower-casing of whole texts, by the full rules of Unicode.

Every character has a lower-case form of its own (`lowerChar`), with one exception that depends
on the context: a capital sigma that ends a word becomes `ς` and any other becomes `σ`.  A sigma
ends a word when the nearest character before it that is not passed over has case, and the
nearest such character after it has not.  The walk over the text therefore carries the
characters already seen, nearest first, and its result for a suffix is determined by the two
lists alone.
-/

namespace PeerTrust

/-- The lower-case form of one character, out of context. -/
def lowerChar (c : Char) : Text :=
  if c = '\u0130' then ['i', '\u0307']
  else
    match caseRuns.find? (·.covers c.toNat) with
    | some run => [Char.ofNat (run.lower c.toNat)]
    | none => [c]

namespace Text

/-- The first character that is not passed over has case. -/
def meetsCased (s : Text) : Bool :=
  match s.dropWhile isCaseIgnorable with
  | [] => false
  | c :: _ => isCased c

/-- The lower-case form of a sigma between `before`, nearest first, and `after`. -/
def lowerSigma (before after : Text) : Char :=
  if meetsCased before && !meetsCased after then 'ς' else 'σ'

/-- Lower-casing of `rest` in a text where `before`, nearest first, precedes it. -/
def lowerAfter (before : Text) : (rest : Text) → Text
  | [] => []
  | c :: rest =>
    (if c = 'Σ' then [lowerSigma before rest] else lowerChar c) ++ lowerAfter (c :: before) rest

/-- The text in lower case. -/
def lower (s : Text) : Text := lowerAfter [] s

/-- The text as names are compared: without blanks around it, and in lower case. -/
def fold (s : Text) : Text := s.trim.lower

@[simp] theorem lower_nil : lower [] = [] := rfl

end Text

end PeerTrust
