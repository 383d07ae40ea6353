import IntentSelect.Proofs.CalendarDates
import IntentSelect.Proofs.StrayLeapSeconds
import IntentSelect.Proofs.Successes
import IntentSelect.Timestamp.Reader

/-! # Timestamps that are written and read back

A timestamp is written with its date and time of day in universal time, which are found by
division and by the calendar.  Each part has its own digits, which are read as the number that
they write (`readNumber_padded`), so the parts read are the parts written (`readParts_chars`).
They are put together to the instant that the text has (`ofChars_chars`): the date is the one of the
day, and a second 60 counts as a leap second after the second before it.  That is the timestamp
itself unless it is a stray leap second.
-/
namespace IntentSelect.Timestamp

open Text

variable {ds rest : List Char} {n width most : Nat}

/-! ## Digits -/

theorem toNat_digit {c : Char} (h : c.isDigit = true) : 48 ≤ c.toNat ∧ c.toNat ≤ 57 := by
  simp only [Char.isDigit, Bool.and_eq_true, decide_eq_true_eq] at h
  exact h

theorem isBlank_of_isDigit {c : Char} (h : c.isDigit = true) : isBlank c = false := by
  have hdigit := toNat_digit h
  simp [isBlank, blankSpans, Unicode.Span.contains]
  omega

theorem isDigit_of_mem_padded {c : Char} (h : c ∈ padded width n) : c.isDigit = true := by
  rcases List.mem_append.mp h with h | h
  · rw [List.eq_of_mem_replicate h]
    decide
  · exact Nat.isDigit_of_mem_toDigits (by decide) (by decide) h

theorem padded_ne_nil (width n : Nat) : padded width n ≠ [] := by
  simp [padded, Nat.toDigits_ne_nil]

/-- Zeros in front do not change a number. -/
theorem ofDigitChars_padded (width n : Nat) : Nat.ofDigitChars 10 (padded width n) 0 = n := by
  unfold padded
  rw [Nat.ofDigitChars_append, Nat.ofDigitChars_replicate_zero, Nat.mul_zero]
  exact Nat.ofDigitChars_ten_toDigits

theorem length_padded (hwidth : 0 < width) (h : n < Nat.pow 10 width) :
    (padded width n).length = width := by
  have hlength := (Nat.length_toDigits_le_iff (by decide) hwidth).mpr h
  simp only [padded, List.length_append, List.length_replicate]
  omega

theorem dropBlank_cons {c : Char} (h : isBlank c = false) : dropBlank (c :: rest) = c :: rest :=
  List.dropWhile_cons_of_neg (by simp [h])

theorem exists_padded_eq_cons (width n : Nat) :
    ∃ c cs, padded width n = c :: cs ∧ c.isDigit = true := by
  obtain ⟨c, cs, hcs⟩ := List.exists_cons_of_ne_nil (padded_ne_nil width n)
  exact ⟨c, cs, hcs, isDigit_of_mem_padded (hcs ▸ List.mem_cons_self)⟩

theorem dropBlank_padded (width n : Nat) (rest : List Char) :
    dropBlank (padded width n ++ rest) = padded width n ++ rest := by
  obtain ⟨c, cs, hcs, hdigit⟩ := exists_padded_eq_cons width n
  rw [hcs]
  exact dropBlank_cons (isBlank_of_isDigit hdigit)

/-! ## Numbers -/

/-- All digits are read if there are no more than that, and no others follow unless there are just
as many. -/
theorem leadingDigits_append (hds : ∀ c ∈ ds, c.isDigit = true) (hmost : ds.length ≤ most)
    (hrest : ds.length < most → ∀ c ∈ rest.head?, c.isDigit = false) :
    leadingDigits most (ds ++ rest) = ds := by
  unfold leadingDigits
  rw [List.take_append, List.take_of_length_le hmost, List.takeWhile_append_of_pos hds]
  cases hleft : most - ds.length with
  | zero => simp
  | succ left =>
    cases rest with
    | nil => simp
    | cons c rest =>
      have hc : ¬ c.isDigit = true := by simp [hrest (by omega) c rfl]
      rw [List.take_succ_cons, List.takeWhile_cons_of_neg hc, List.append_nil]

theorem readNumber_append (hne : ds ≠ []) (hlead : leadingDigits most (ds ++ rest) = ds)
    (hn : Nat.ofDigitChars 10 ds 0 < 0x8000000000000000) :
    readNumber most (ds ++ rest) = .ok (Nat.ofDigitChars 10 ds 0, rest) := by
  unfold readNumber
  split
  · next h => exact absurd (List.append_eq_nil_iff.mp h).1 hne
  · simp [hlead, hne, hn]

theorem readNumber_padded (hlength : (padded width n).length ≤ most)
    (hrest : (padded width n).length < most → ∀ c ∈ rest.head?, c.isDigit = false)
    (hn : n < 0x8000000000000000) : readNumber most (padded width n ++ rest) = .ok (n, rest) := by
  have hlead := leadingDigits_append (fun c => isDigit_of_mem_padded) hlength hrest
  have hread := readNumber_append (padded_ne_nil width n) hlead (by rwa [ofDigitChars_padded])
  rwa [ofDigitChars_padded] at hread

/-- A number of two digits between bounds. -/
theorem readBetween_padded {least greatest : Nat} (hleast : least ≤ n) (hgreatest : n ≤ greatest)
    (hn : n < 100) : readBetween least greatest (padded 2 n ++ rest) = .ok (n, rest) := by
  have hlength : (padded 2 n).length = 2 := length_padded (by decide) hn
  have hread : readNumber 2 (padded 2 n ++ rest) = .ok (n, rest) :=
    readNumber_padded (by omega) (by omega) (by omega)
  rw [readBetween, dropBlank_padded, hread, ok_bind]
  exact if_pos ⟨hleast, hgreatest⟩

/-! ## Parts -/

theorem readYear_yearChars {year : Int} (hfirst : firstYear ≤ year) (hlast : year ≤ lastYear) :
    readYear (yearChars year ++ '-' :: rest) = .ok (year, '-' :: rest) := by
  unfold firstYear at hfirst
  unfold lastYear at hlast
  have hin : -0x80000000 ≤ year ∧ year < 0x80000000 := by omega
  unfold yearChars
  split
  · next h =>
    have hlength : (padded 4 year.toNat).length = 4 :=
      length_padded (by decide) (show year.toNat < 10000 by omega)
    have hread : readNumber 4 (padded 4 year.toNat ++ '-' :: rest) =
        .ok (year.toNat, '-' :: rest) :=
      readNumber_padded (by omega) (by omega) (by omega)
    have hyear : (year.toNat : Int) = year := Int.toNat_of_nonneg h.1
    obtain ⟨c, cs, hcs, hdigit⟩ := exists_padded_eq_cons 4 year.toNat
    rw [readYear, dropBlank_padded]
    split
    · next heq =>
      rw [hcs] at heq
      cases heq
      exact absurd hdigit (by decide)
    · next heq =>
      rw [hcs] at heq
      cases heq
      exact absurd hdigit (by decide)
    · rw [hread, Except.map, ok_bind]
      simp only [hyear, if_pos hin]
      rfl
  · next h =>
    have hread : readNumber (padded 4 year.natAbs ++ '-' :: rest).length
        (padded 4 year.natAbs ++ '-' :: rest) = .ok (year.natAbs, '-' :: rest) :=
      readNumber_padded (by simp) (fun _ => by simp) (by omega)
    by_cases hneg : year < 0
    · have hyear : -(year.natAbs : Int) = year := by omega
      rw [if_pos hneg, readYear, List.cons_append, dropBlank_cons (by decide)]
      simp only [hread, Except.map, ok_bind, hyear, if_pos hin]
      rfl
    · have hyear : (year.natAbs : Int) = year := by omega
      rw [if_neg hneg, readYear, List.cons_append, dropBlank_cons (by decide)]
      simp only [hread, Except.map, ok_bind, hyear, if_pos hin]
      rfl

/-- A fraction of some digits, as nanoseconds. -/
theorem readFraction_padded (hwidth : 0 < width) (hmost : width ≤ 9) (hn : n < Nat.pow 10 width) :
    readFraction ('.' :: padded width n ++ 'Z' :: rest) =
      .ok (n * Nat.pow 10 (9 - width), 'Z' :: rest) := by
  have hlength := length_padded hwidth hn
  have hlt : n < 0x8000000000000000 :=
    Nat.lt_of_lt_of_le hn (Nat.le_trans (Nat.pow_le_pow_right (by decide) hmost) (by decide))
  have hread : readNumber 9 (padded width n ++ 'Z' :: rest) = .ok (n, 'Z' :: rest) :=
    readNumber_padded (by omega) (fun _ => by simp) hlt
  have hwidth' : (padded width n ++ 'Z' :: rest).length - ('Z' :: rest).length = width := by
    rw [List.length_append, Nat.add_sub_cancel, hlength]
  simp only [readFraction, List.cons_append, hread, ok_bind, hwidth']
  rfl

theorem readFraction_fractionChars {nano : Nat} (h : nano < 1000000000) :
    readFraction (fractionChars nano ++ 'Z' :: rest) = .ok (nano, 'Z' :: rest) := by
  unfold fractionChars
  split
  · next hzero => rw [hzero]; rfl
  split
  · next hmilli =>
    have hread : readFraction ('.' :: padded 3 (nano / 1000000) ++ 'Z' :: rest) =
        .ok (nano / 1000000 * 1000000, 'Z' :: rest) :=
      readFraction_padded (by decide) (by decide) (show nano / 1000000 < 1000 by omega)
    rwa [Nat.div_mul_cancel (Nat.dvd_of_mod_eq_zero hmilli)] at hread
  split
  · next hmicro =>
    have hread : readFraction ('.' :: padded 6 (nano / 1000) ++ 'Z' :: rest) =
        .ok (nano / 1000 * 1000, 'Z' :: rest) :=
      readFraction_padded (by decide) (by decide) (show nano / 1000 < 1000000 by omega)
    rwa [Nat.div_mul_cancel (Nat.dvd_of_mod_eq_zero hmicro)] at hread
  · have hread : readFraction ('.' :: padded 9 nano ++ 'Z' :: rest) =
        .ok (nano * 1, 'Z' :: rest) :=
      readFraction_padded (by decide) (by decide) h
    rwa [Nat.mul_one] at hread

theorem expect_dropBlank {x : Char} (h : isBlank x = false) :
    expect x (dropBlank (x :: rest)) = .ok rest := by
  rw [dropBlank_cons h]
  exact if_pos rfl

/-! ## Whole timestamps -/

/-- The seconds since midnight. -/
def clock (t : Timestamp) : Nat := (t.second % secondsPerDay).toNat

/-- True within a leap second. -/
def isLeapSecond (t : Timestamp) : Bool := decide (1000000000 ≤ t.nano)

/-- The parts in which a timestamp is written. -/
def written (t : Timestamp) : Written where
  date := dateOf (t.second / secondsPerDay)
  hour := t.clock / 3600
  minute := t.clock / 60 % 60
  second := if t.isLeapSecond then t.clock % 60 + 1 else t.clock % 60
  nano := if t.isLeapSecond then t.nano - 1000000000 else t.nano
  offset := 0

theorem clock_eq (t : Timestamp) : (t.clock : Int) = t.second % 86400 := by
  unfold clock secondsPerDay
  omega

theorem second_written_le (t : Timestamp) : t.written.second ≤ 60 := by
  simp only [written]
  split <;> omega

theorem nano_written_lt (t : Timestamp) : t.written.nano < 1000000000 := by
  have := t.nano_lt
  simp only [written, isLeapSecond, decide_eq_true_eq]
  split <;> omega

theorem chars_eq (t : Timestamp) : t.chars =
    yearChars t.written.date.year ++ '-' :: (padded 2 t.written.date.month ++
      '-' :: (padded 2 t.written.date.day ++ 'T' :: (padded 2 t.written.hour ++
      ':' :: (padded 2 t.written.minute ++ ':' :: (padded 2 t.written.second ++
      (fractionChars t.written.nano ++ ['Z'])))))) := by
  simp only [chars, written, clock, isLeapSecond, List.append_assoc, List.cons_append]
  rfl

/-- The parts that are read are those that have been written. -/
theorem readParts_chars (t : Timestamp) : readParts t.chars = .ok t.written := by
  obtain ⟨hfirst, hlast⟩ : firstYear ≤ t.written.date.year ∧ t.written.date.year ≤ lastYear :=
    year_dateOf_mem t
  have hvalid : t.written.date.isValid = true := (dateOf_spec (t.second / secondsPerDay)).1
  simp only [Date.isValid, Bool.and_eq_true, decide_eq_true_eq] at hvalid
  obtain ⟨⟨⟨hmonth, hmonth'⟩, hday⟩, hday'⟩ := hvalid
  have hday31 := Nat.le_trans hday' (monthLength_le _ _)
  have hhour : t.written.hour ≤ 23 := by
    have := t.clock_eq
    simp only [written]
    omega
  have hminute : t.written.minute ≤ 59 := by
    simp only [written]
    omega
  have hsecond := second_written_le t
  have hdash : isBlank '-' = false := by decide
  have hcolon : isBlank ':' = false := by decide
  rw [chars_eq, readParts, readYear_yearChars hfirst hlast, ok_bind]
  simp only [expect_dropBlank hdash, ok_bind]
  rw [readBetween_padded hmonth hmonth' (by omega), ok_bind]
  simp only [expect_dropBlank hdash, ok_bind]
  rw [readBetween_padded hday hday31 (by omega), ok_bind]
  simp only [readSeparator, true_or, ↓reduceIte, ok_bind]
  rw [readBetween_padded (Nat.zero_le _) hhour (by omega), ok_bind]
  simp only [expect_dropBlank hcolon, ok_bind]
  rw [readBetween_padded (Nat.zero_le _) hminute (by omega), ok_bind]
  simp only [expect_dropBlank hcolon, ok_bind]
  rw [readBetween_padded (Nat.zero_le _) hsecond (by omega), ok_bind]
  simp only
  rw [readFraction_fractionChars (nano_written_lt t), ok_bind]
  rfl

/-- The parts count as the second and the nanoseconds of the settled timestamp: what is written as
the second 60 is the leap second after the last second of a minute, and no other is. -/
theorem settled_written (t : Timestamp) :
    min t.written.second 59 + t.second = t.clock % 60 + t.settled.second ∧
      t.written.instantNano = t.settled.nano := by
  have hclock := t.clock_eq
  unfold Written.instantNano
  simp only [written, isLeapSecond, decide_eq_true_eq]
  rcases t.settled_cases with ⟨⟨hleap, hminute⟩, hsecond, hnano⟩ | ⟨hstray, hsecond, hnano⟩
  · rw [if_pos hleap, if_pos hleap, if_neg (by omega)]
    omega
  · by_cases hleap : 1000000000 ≤ t.nano
    · have hminute : t.second % 60 = 59 := Decidable.byContradiction fun h => hstray ⟨hleap, h⟩
      rw [if_pos hleap, if_pos hleap, if_pos (by omega)]
      omega
    · rw [if_neg hleap, if_neg hleap, if_neg (by omega)]
      omega

theorem instantSecond_written (t : Timestamp) : t.written.instantSecond = t.settled.second := by
  have hday : t.written.date.dayNumber = t.second / 86400 := (dateOf_spec _).2.1
  have hclock := t.clock_eq
  have hoffset : t.written.offset = 0 := rfl
  have hhour : t.written.hour = t.clock / 3600 := rfl
  have hminute : t.written.minute = t.clock / 60 % 60 := rfl
  have hsecond := t.settled_written.1
  unfold Written.instantSecond Written.localSecond secondsPerDay
  rw [hday, hoffset, hhour, hminute]
  omega

/-- **A timestamp is read back from its text**, to the nanosecond, with any stray leap second
settled. -/
theorem ofChars_chars (t : Timestamp) : ofChars t.chars = .ok t.settled := by
  have hdate : t.written.date.isValid = true ∧ firstYear ≤ t.written.date.year ∧
      t.written.date.year ≤ lastYear ∧ -secondsPerDay < t.written.offset ∧
      t.written.offset < secondsPerDay := by
    obtain ⟨hfirst, hlast⟩ := year_dateOf_mem t
    refine ⟨(dateOf_spec _).1, hfirst, hlast, ?_, ?_⟩
    · show -secondsPerDay < 0
      decide
    · show (0 : Int) < secondsPerDay
      decide
  rw [ofChars, readParts_chars, ok_bind, Written.toTimestamp, if_pos hdate, instantSecond_written,
    t.settled_written.2, ofParts?_self]

end IntentSelect.Timestamp
