import PeerTrust.Instant
import PeerTrust.Proofs.Text.Cuts

/-!
Timestamps without an offset.

An instant is a point of universal time, so a timestamp has to say how far its clock is ahead of
that.  One that does not say so is taken to be written by a clock of universal time: an offset of
nothing may be put behind it, and it is read as the same instant (`ofTimestamp?_append_offset`).
-/

namespace PeerTrust

namespace Instant

theorem le_trans {a b c : Instant} (hab : a ≤ b) (hbc : b ≤ c) : a ≤ c := Int.le_trans hab hbc

theorem not_lt {a b : Instant} : ¬ a < b ↔ b ≤ a := Int.not_lt

end Instant

namespace ClockTime

variable {s time : Text} {n : Nat}

/-- No character of the text starts an offset or stands for one. -/
def LacksOffset (time : Text) : Prop := '+' ∉ time ∧ '-' ∉ time ∧ 'Z' ∉ time

theorem timeAndOffset?_of_lacksOffset (h : LacksOffset time) :
    timeAndOffset? time = (timeOfDay? time).map fun micros => ((micros : Int), none) := by
  obtain ⟨hplus, hminus, hz⟩ := h
  unfold timeAndOffset?
  rw [if_neg (by simpa using hplus), if_neg (by simpa using hminus), if_neg (by simpa using hz)]
  cases timeOfDay? time <;> rfl

theorem timeAndOffset?_append_offset (h : LacksOffset time) :
    timeAndOffset? (time ++ "+00:00".toList) =
      (timeOfDay? time).map fun micros => ((micros : Int), some 0) := by
  have hnothing : timeOfDay? "00:00".toList = some 0 := by decide
  have happend : time ++ "+00:00".toList = time ++ '+' :: "00:00".toList := rfl
  rw [happend]
  unfold timeAndOffset?
  rw [if_pos (by simp), Text.upTo_append_cons h.1, Text.past?_append_cons h.1, Option.bind_some,
    hnothing]
  cases timeOfDay? time <;> rfl

theorem ofDateAndTime?_append_offset (hlength : n + 1 < s.length)
    (h : LacksOffset (s.drop (n + 1))) :
    (ofDateAndTime? n (s ++ "+00:00".toList)).map instant = (ofDateAndTime? n s).map instant := by
  unfold ofDateAndTime?
  rw [List.take_append_of_le_length (by omega), List.drop_append_of_le_length (by omega)]
  have hne : s.drop (n + 1) ≠ [] := mt List.drop_eq_nil_iff.1 (Nat.not_le_of_lt hlength)
  obtain ⟨c, rest, hrest⟩ := List.exists_cons_of_ne_nil hne
  have hzero := timeAndOffset?_append_offset h
  have hnone := timeAndOffset?_of_lacksOffset h
  rw [hrest] at hzero hnone ⊢
  rw [List.cons_append] at hzero ⊢
  dsimp only
  rw [hzero, hnone]
  cases date? (s.take n) with
  | none => rfl
  | some days => cases timeOfDay? (c :: rest) <;> rfl

end ClockTime

namespace Instant

variable {s : Text}

/-- What follows the date, whichever way that is written, is a time of day without an offset. -/
def IsLocal (s : Text) : Prop := 11 < s.length ∧ ClockTime.LacksOffset (s.drop 9)

/-- Without an offset a timestamp is in universal time. -/
theorem ofTimestamp?_append_offset (h : IsLocal s) :
    ofTimestamp? (s ++ "+00:00".toList) = ofTimestamp? s := by
  obtain ⟨hlength, hlacks⟩ := h
  have hlacks' : ClockTime.LacksOffset (s.drop 11) := by
    have hsub : s.drop 11 ⊆ s.drop 9 := List.drop_subset_drop_left s (by decide)
    exact ⟨fun hmem => hlacks.1 (hsub hmem), fun hmem => hlacks.2.1 (hsub hmem),
      fun hmem => hlacks.2.2 (hsub hmem)⟩
  have hlong := ClockTime.ofDateAndTime?_append_offset hlength hlacks'
  have hshort := ClockTime.ofDateAndTime?_append_offset (n := 8) (by omega) hlacks
  unfold ofTimestamp? ClockTime.ofTimestamp?
  rw [Option.map_or, Option.map_or, hlong, hshort]

-- Marks can be left out, and other offsets count.
example : ofTimestamp? "20200101T000000".toList =
    ofTimestamp? "2020-01-01T00:00:00+00:00".toList := by decide
example : ofTimestamp? "2020-01-01T00:00:00".toList =
    ofTimestamp? "2020-01-01T05:30:00+05:30".toList := by decide

end Instant

end PeerTrust
