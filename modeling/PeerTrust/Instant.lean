import PeerTrust.Text.Basic

/-!
Instants of time, what clocks show of them, and reading that from timestamps.

An instant is a count of microseconds, so comparing two instants is comparing two numbers.  A clock
shows a date and a time of day, and may say how far it is ahead of universal time; one that does
not say so is taken to show universal time.  A timestamp is what a clock shows: a date and a time
of day, perhaps a fraction of a second, and perhaps an offset.  The fields of a date and of a time
of day can be written with or without the marks between them.
-/

namespace PeerTrust

/-- An instant, in microseconds since the start of year 1 in the Gregorian calendar. -/
structure Instant where
  micros : Int
deriving DecidableEq, Repr

namespace Instant

instance : LE Instant := ⟨fun a b => a.micros ≤ b.micros⟩
instance : LT Instant := ⟨fun a b => a.micros < b.micros⟩

instance (a b : Instant) : Decidable (a ≤ b) := inferInstanceAs (Decidable (a.micros ≤ b.micros))
instance (a b : Instant) : Decidable (a < b) := inferInstanceAs (Decidable (a.micros < b.micros))

end Instant

/-- What a clock shows, in microseconds since the start of year 1, and by how many of them it is
ahead of universal time if it says so. -/
structure ClockTime where
  shown : Int
  ahead : Option Int
deriving DecidableEq, Repr

namespace ClockTime

/-- The instant at which a clock shows this. -/
def instant (t : ClockTime) : Instant := ⟨t.shown - t.ahead.getD 0⟩

@[simp]
theorem instant_of_unknown (shown : Int) : instant ⟨shown, none⟩ = ⟨shown⟩ :=
  congrArg Instant.mk (Int.sub_zero shown)

/-! ## The calendar -/

/-- The year has a 29th of February. -/
def isLeapYear (year : Nat) : Bool := year % 4 == 0 && (year % 100 != 0 || year % 400 == 0)

/-- The days from the start of year 1 to the start of a year. -/
def daysBeforeYear (year : Nat) : Nat :=
  (year - 1) * 365 + (year - 1) / 4 - (year - 1) / 100 + (year - 1) / 400

/-- The lengths of the months of a year. -/
def monthLengths (year : Nat) : List Nat :=
  [31, if isLeapYear year then 29 else 28, 31, 30, 31, 30, 31, 31, 30, 31, 30, 31]

/-- The days from the start of year 1 to a date. -/
def dayNumber (year month day : Nat) : Nat :=
  daysBeforeYear year + ((monthLengths year).take (month - 1)).foldl (· + ·) 0 + (day - 1)

/-! ## Timestamps -/

/-- The number that a run of decimal digits of this length denotes. -/
def fixedNumber? (width : Nat) (s : Text) : Option Nat :=
  if s.length = width then s.numeral? 10 else none

/-- The days before a date `YYYY-MM-DD` or `YYYYMMDD`. -/
def date? (s : Text) : Option Nat := do
  let (y, m, d) ← match s.splitOn '-' with
    | [y, m, d] => some (y, m, d)
    | [digits] => some (digits.take 4, (digits.drop 4).take 2, digits.drop 6)
    | _ => none
  some (dayNumber (← fixedNumber? 4 y) (← fixedNumber? 2 m) (← fixedNumber? 2 d))

/-- A fraction of a second, of which six digits count. -/
def fraction? (s : Text) : Option Nat := fixedNumber? 6 ((s ++ List.replicate 6 '0').take 6)

/-- The fields of a time of day: between colons, or two digits each. -/
def clockFields (s : Text) : List Text :=
  match s.splitOn ':' with
  | [digits] => [digits.take 2, (digits.drop 2).take 2, digits.drop 4].filter (!·.isEmpty)
  | fields => fields

/-- The microseconds of a time of day `HH:MM:SS` or `HHMMSS`, perhaps with a fraction.  The
seconds, or the minutes too, can be left out. -/
def timeOfDay? (s : Text) : Option Nat := do
  let micros ← match s.past? '.' with
    | some digits => fraction? digits
    | none => some 0
  let seconds ← match clockFields (s.upTo '.') with
    | [h] => do some ((← fixedNumber? 2 h) * 3600)
    | [h, m] => do some ((← fixedNumber? 2 h) * 3600 + (← fixedNumber? 2 m) * 60)
    | [h, m, sec] => do
      some ((← fixedNumber? 2 h) * 3600 + (← fixedNumber? 2 m) * 60 + (← fixedNumber? 2 sec))
    | _ => none
  some (seconds * 1000000 + micros)

/-- The microseconds from midnight that a clock shows, and those that it is ahead of universal
time.  The letter `Z` stands for a clock of universal time. -/
def timeAndOffset? (s : Text) : Option (Int × Option Int) := do
  if s.contains '+' then
    some (← timeOfDay? (s.upTo '+'), some (← (s.past? '+').bind timeOfDay?))
  else if s.contains '-' then
    some (← timeOfDay? (s.upTo '-'), some (-(← (s.past? '-').bind timeOfDay?)))
  else if s.contains 'Z' then some (← timeOfDay? (s.upTo 'Z'), some 0)
  else some (← timeOfDay? s, none)

/-- What a timestamp shows whose date has this length.  Any character can stand between date and
time; a date alone is the midnight that it starts with. -/
def ofDateAndTime? (dateLength : Nat) (s : Text) : Option ClockTime := do
  let days ← date? (s.take dateLength)
  let (time, ahead) ← match s.drop (dateLength + 1) with
    | [] => some (0, none)
    | time => timeAndOffset? time
  some ⟨days * 86400000000 + time, ahead⟩

/-- What a timestamp `YYYY-MM-DDTHH:MM:SS` shows, with an optional fraction and an optional
offset. -/
def ofTimestamp? (s : Text) : Option ClockTime :=
  (ofDateAndTime? 10 s).or (ofDateAndTime? 8 s)

end ClockTime

/-- The instant of a timestamp. -/
def Instant.ofTimestamp? (s : Text) : Option Instant :=
  (ClockTime.ofTimestamp? s).map ClockTime.instant

end PeerTrust
