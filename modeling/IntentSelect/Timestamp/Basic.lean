import IntentSelect.Timestamp.Calendar

/-!
# Timestamps

A timestamp is an instant: whole seconds since the beginning of 1970 in universal time, and
nanoseconds after it.  A leap second counts as a second thousand million nanoseconds of the second
before it.  In a text that is the last second of a minute; a timestamp that is made in another way
may have a leap second after any second.  Timestamps reach from the beginning of the year -262143 to
the end of the year 262142, and are compared by seconds, then by nanoseconds.

`Timestamp.text` writes the date and time in universal time, with a fraction of no, three, six or
nine digits, whichever suffices.  A leap second is written as the second after the one that it
follows.
-/
namespace IntentSelect

namespace Timestamp

/-- The first and the last year of a timestamp. -/
def firstYear : Int := -262143
def lastYear : Int := 262142

/-- The first second of `firstYear` and the last one of `lastYear`. -/
def firstSecond : Int := -8334601228800
def lastSecond : Int := 8210266876799

end Timestamp

/-- An instant, in seconds since the beginning of 1970 and nanoseconds after that. -/
structure Timestamp where
  second : Int
  nano : Nat
  /-- The instant lies in the range of timestamps. -/
  inRange : Timestamp.firstSecond ≤ second ∧ second ≤ Timestamp.lastSecond
  /-- A leap second may follow the second. -/
  nano_lt : nano < 2000000000
deriving DecidableEq, Repr

namespace Timestamp

theorem ext {a b : Timestamp} (hs : a.second = b.second) (hn : a.nano = b.nano) : a = b := by
  cases a; cases b; simp_all

/-- The timestamp of seconds and nanoseconds, if there is one. -/
def ofParts? (second : Int) (nano : Nat) : Option Timestamp :=
  if h : (firstSecond ≤ second ∧ second ≤ lastSecond) ∧ nano < 2000000000 then
    some ⟨second, nano, h.1, h.2⟩
  else none

theorem ofParts?_self (t : Timestamp) : ofParts? t.second t.nano = some t :=
  dif_pos ⟨t.inRange, t.nano_lt⟩

/-- The order of instants. -/
def compare (a b : Timestamp) : Ordering :=
  (Ord.compare a.second b.second).then (Ord.compare a.nano b.nano)

def secondsPerDay : Int := 86400

/-- Decimal digits, with zeros in front up to the given number of digits. -/
def padded (width n : Nat) : List Char :=
  let ds := Nat.toDigits 10 n
  List.replicate (width - ds.length) '0' ++ ds

/-- Four digits for the years 0 to 9999; other years have a sign. -/
def yearChars (year : Int) : List Char :=
  if 0 ≤ year ∧ year ≤ 9999 then padded 4 year.toNat
  else (if year < 0 then '-' else '+') :: padded 4 year.natAbs

/-- The fraction of a second, with as many digits as needed in steps of three. -/
def fractionChars (nano : Nat) : List Char :=
  if nano = 0 then []
  else if nano % 1000000 = 0 then '.' :: padded 3 (nano / 1000000)
  else if nano % 1000 = 0 then '.' :: padded 6 (nano / 1000)
  else '.' :: padded 9 nano

/-- The characters of a timestamp in universal time. -/
def chars (t : Timestamp) : List Char :=
  let date := dateOf (t.second / secondsPerDay)
  let clock := (t.second % secondsPerDay).toNat
  let leap := decide (1000000000 ≤ t.nano)
  let second := if leap then clock % 60 + 1 else clock % 60
  let nano := if leap then t.nano - 1000000000 else t.nano
  yearChars date.year ++ '-' :: padded 2 date.month ++ '-' :: padded 2 date.day ++
    'T' :: padded 2 (clock / 3600) ++ ':' :: padded 2 (clock / 60 % 60) ++ ':' :: padded 2 second ++
    fractionChars nano ++ ['Z']

/-- The text of a timestamp in universal time. -/
def text (t : Timestamp) : String := String.ofList t.chars

end Timestamp

end IntentSelect
