/-!
# The calendar

Days of the proleptic Gregorian calendar, with a year zero and years before it.  `dayNumber` counts
the days since 1 January 1970, and `dateOf` finds the date of such a number.  The year is found by
an estimate from the mean length of a year, which is off by at most one.
-/
namespace IntentSelect.Timestamp

structure Date where
  year : Int
  month : Nat
  day : Nat
deriving DecidableEq, Repr

def isLeap (year : Int) : Bool := year % 4 == 0 && (year % 100 != 0 || year % 400 == 0)

/-- The lengths of the months of a year. -/
def monthLengths (leap : Bool) : List Nat :=
  [31, if leap then 29 else 28, 31, 30, 31, 30, 31, 31, 30, 31, 30, 31]

def monthLength (leap : Bool) (month : Nat) : Nat := (monthLengths leap).getD (month - 1) 0

/-- The days of a year before a month of it. -/
def daysBeforeMonth (leap : Bool) (month : Nat) : Nat :=
  ((monthLengths leap).take (month - 1)).foldl (· + ·) 0

/-- The days from 1 January of year zero to 1 January of a year. -/
def daysBeforeYear (year : Int) : Int :=
  365 * year + (year - 1) / 4 - (year - 1) / 100 + (year - 1) / 400 + 1

/-- The days from 1 January of year zero to 1 January 1970. -/
def daysBefore1970 : Int := 719528

namespace Date

/-- A date that the calendar has. -/
def isValid (d : Date) : Bool :=
  decide (1 ≤ d.month) && decide (d.month ≤ 12) && decide (1 ≤ d.day) &&
    decide (d.day ≤ monthLength (isLeap d.year) d.month)

/-- The days from 1 January 1970 to a date. -/
def dayNumber (d : Date) : Int :=
  daysBeforeYear d.year + daysBeforeMonth (isLeap d.year) d.month + (d.day - 1 : Int) -
    daysBefore1970

end Date

/-- The year in which the given day after 1 January of year zero lies. -/
def yearOf (day : Int) : Int :=
  let estimate := day * 400 / 146097
  if daysBeforeYear (estimate + 1) ≤ day then estimate + 1
  else if daysBeforeYear estimate ≤ day then estimate
  else estimate - 1

/-- The month and the day of it, both counted from one, of a day of the year counted from zero. -/
def monthOf (month : Nat) (day : Nat) : List Nat → Nat × Nat
  | [] => (month, day + 1)
  | length :: rest =>
    if day < length then (month, day + 1) else monthOf (month + 1) (day - length) rest

/-- The date so many days after 1 January 1970. -/
def dateOf (number : Int) : Date :=
  let day := number + daysBefore1970
  let year := yearOf day
  let (month, day) := monthOf 1 (day - daysBeforeYear year).toNat (monthLengths (isLeap year))
  ⟨year, month, day⟩

end IntentSelect.Timestamp
