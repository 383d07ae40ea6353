import IntentSelect.Text.Blank
import IntentSelect.Timestamp.Basic

/-!
# Reading timestamps

A timestamp is read from a date, a time of day and an offset from universal time.  White space is
allowed around the parts; `T`, `t` or a blank separates date and time; a year of more than four
digits or before year zero has a sign; digits after the ninth of a fraction are dropped; the offset
is `Z`, `z`, `UTC` in any case, or a sign, hours and minutes with or without a colon.  The second 60
is read as a leap second in any minute.

Whatever stands where a part is expected is refused at once (`Refused`); whether the date exists is
only looked at when the whole text has been read.
-/
namespace IntentSelect.Timestamp

open Text

/-- Why a text is no timestamp. -/
inductive Refused where
  | tooShort
  | invalid
  | outOfRange
  | tooLong
  | impossible
deriving DecidableEq, Repr

def Refused.message : Refused → String
  | .tooShort => "premature end of input"
  | .invalid => "input contains invalid characters"
  | .outOfRange => "input is out of range"
  | .tooLong => "trailing input"
  | .impossible => "no possible date and time matching input"

/-! ## Parts -/

/-- Reads one given character. -/
def expect (x : Char) : List Char → Except Refused (List Char)
  | [] => .error .tooShort
  | c :: rest => if c = x then .ok rest else .error .invalid

/-- The digits at the front, at most `most` of them. -/
def leadingDigits (most : Nat) (cs : List Char) : List Char := (cs.take most).takeWhile Char.isDigit

/-- Reads a number of at least one and at most `most` digits that fits a signed word of 64 bits. -/
def readNumber (most : Nat) (cs : List Char) : Except Refused (Nat × List Char) :=
  match cs with
  | [] => .error .tooShort
  | cs =>
    let ds := leadingDigits most cs
    if ds.isEmpty then .error .invalid
    else
      let n := Nat.ofDigitChars 10 ds 0
      if n < 0x8000000000000000 then .ok (n, cs.drop ds.length) else .error .outOfRange

/-- Reads a number that has to lie between bounds. -/
def readBetween (least greatest : Nat) (cs : List Char) : Except Refused (Nat × List Char) := do
  let (n, rest) ← readNumber 2 (dropBlank cs)
  if least ≤ n ∧ n ≤ greatest then return (n, rest) else throw .outOfRange

/-- Reads a year: four digits at most, or any number of digits after a sign. -/
def readYear (cs : List Char) : Except Refused (Int × List Char) := do
  let (year, rest) ← match dropBlank cs with
    | '-' :: cs => (readNumber cs.length cs).map fun p => (-(p.1 : Int), p.2)
    | '+' :: cs => (readNumber cs.length cs).map fun p => ((p.1 : Int), p.2)
    | cs => (readNumber 4 cs).map fun p => ((p.1 : Int), p.2)
  if -0x80000000 ≤ year ∧ year < 0x80000000 then return (year, rest) else throw .outOfRange

/-- Reads the fraction of a second, if there is one, as nanoseconds. -/
def readFraction (cs : List Char) : Except Refused (Nat × List Char) :=
  match cs with
  | '.' :: cs => do
    let (n, rest) ← readNumber 9 cs
    let width := cs.length - rest.length
    return (n * Nat.pow 10 (9 - width), rest.dropWhile Char.isDigit)
  | cs => .ok (0, cs)

/-- Two digits, if the text is long enough to hold them. -/
def twoDigits (cs : List Char) : Except Refused (Nat × Nat × List Char) :=
  match cs with
  | [] => .error .tooShort
  | [c] => if c.toNat < 0x80 then .error .tooShort else .error .invalid
  | a :: b :: rest =>
    if a.isDigit ∧ b.isDigit then .ok (a.toNat - '0'.toNat, b.toNat - '0'.toNat, rest)
    else .error .invalid

/-- Reads hours and minutes after a sign, as seconds. -/
def readHoursAndMinutes (cs : List Char) : Except Refused (Nat × List Char) := do
  let (a, b, rest) ← twoDigits cs
  let (c, d, rest) ← twoDigits (rest.dropWhile fun c => c == ':' || isBlank c)
  if 6 ≤ c then throw .outOfRange
  return ((a * 10 + b) * 3600 + (c * 10 + d) * 60, rest)

/-- Reads an offset from universal time, in seconds. -/
def readOffset (cs : List Char) : Except Refused (Int × List Char) :=
  match cs with
  | [] => .error .tooShort
  | c :: rest =>
    if (cs.take 3).map Char.toUpper = ['U', 'T', 'C'] then .ok (0, cs.drop 3)
    else if c = 'Z' ∨ c = 'z' then .ok (0, rest)
    else if c = '+' then (readHoursAndMinutes rest).map fun p => ((p.1 : Int), p.2)
    else if c = '-' ∨ c = '−' then (readHoursAndMinutes rest).map fun p => (-(p.1 : Int), p.2)
    else .error .invalid

/-! ## Whole timestamps -/

/-- A date, a time of day and an offset as they are written. -/
structure Written where
  date : Date
  hour : Nat
  minute : Nat
  second : Nat
  nano : Nat
  offset : Int
deriving DecidableEq, Repr

/-- Reads a separator between date and time. -/
def readSeparator : List Char → Except Refused (List Char)
  | [] => .error .tooShort
  | c :: rest => if c = 'T' ∨ c = 't' ∨ c = ' ' then .ok rest else .error .invalid

/-- Reads the parts of a timestamp, to the end of the text. -/
def readParts (cs : List Char) : Except Refused Written := do
  let (year, cs) ← readYear cs
  let cs ← expect '-' (dropBlank cs)
  let (month, cs) ← readBetween 1 12 cs
  let cs ← expect '-' (dropBlank cs)
  let (day, cs) ← readBetween 1 31 cs
  let cs ← readSeparator cs
  let (hour, cs) ← readBetween 0 23 cs
  let cs ← expect ':' (dropBlank cs)
  let (minute, cs) ← readBetween 0 59 cs
  let cs ← expect ':' (dropBlank cs)
  let (second, cs) ← readBetween 0 60 cs
  let (nano, cs) ← readFraction cs
  let (offset, cs) ← readOffset (dropBlank cs)
  if (dropBlank cs).isEmpty then return ⟨⟨year, month, day⟩, hour, minute, second, nano, offset⟩
  else throw .tooLong

namespace Written

/-- The seconds of the local time since the beginning of 1970; a leap second counts as the one
before it. -/
def localSecond (w : Written) : Int :=
  w.date.dayNumber * secondsPerDay + (w.hour * 3600 + w.minute * 60 + min w.second 59 : Nat)

/-- The seconds of the instant: local time less its offset. -/
def instantSecond (w : Written) : Int := w.localSecond - w.offset

/-- The nanoseconds of the instant, a leap second counting as the second before it. -/
def instantNano (w : Written) : Nat := if w.second = 60 then w.nano + 1000000000 else w.nano

/-- The instant, if the date exists and date, offset and instant lie in their ranges. -/
def toTimestamp (w : Written) : Except Refused Timestamp :=
  if w.date.isValid ∧ firstYear ≤ w.date.year ∧ w.date.year ≤ lastYear ∧
      -secondsPerDay < w.offset ∧ w.offset < secondsPerDay then
    match ofParts? w.instantSecond w.instantNano with
    | some t => .ok t
    | none => .error .impossible
  else .error .outOfRange

end Written

/-- Reads a timestamp. -/
def ofChars (cs : List Char) : Except Refused Timestamp := do (← readParts cs).toTimestamp

end IntentSelect.Timestamp
