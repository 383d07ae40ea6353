import IntentSelect.Timestamp.Basic
import Mathlib.Algebra.BigOperators.Group.List.Basic
import Mathlib.Algebra.Order.Ring.Int

/-! # The date of a day

`dateOf` finds the year of a day by an estimate and the month by subtracting one month after the
other.  The year found is the one in which the day lies (`yearOf_spec`), since the estimate is
never off by more than one; the month found is the one in which the rest of the days lies
(`monthOf_spec`).  So the date found is one that the calendar has, and it is the date of the day
(`dateOf_spec`).  The years of timestamps are in their range (`year_dateOf_mem`).
-/
namespace IntentSelect.Timestamp

/-! ## Years -/

/-- The estimate is off by at most one, so the year found begins on the day or before it, and the
next one after it. -/
theorem yearOf_spec (day : Int) :
    daysBeforeYear (yearOf day) ≤ day ∧ day < daysBeforeYear (yearOf day + 1) := by
  have hbelow : daysBeforeYear (day * 400 / 146097 - 1) ≤ day := by
    unfold daysBeforeYear
    omega
  have habove : day < daysBeforeYear (day * 400 / 146097 + 1 + 1) := by
    unfold daysBeforeYear
    omega
  unfold yearOf
  simp only
  split
  · next h => exact ⟨h, habove⟩
  · next h =>
    split
    · next h' => exact ⟨h', Int.not_le.mp h⟩
    · next h' =>
      rw [Int.sub_add_cancel]
      exact ⟨hbelow, Int.not_le.mp h'⟩

/-- The days of a year. -/
theorem daysBeforeYear_succ (year : Int) :
    daysBeforeYear (year + 1) = daysBeforeYear year + (monthLengths (isLeap year)).sum := by
  have hmod : year % 4 = 0 ∧ (year % 100 ≠ 0 ∨ year % 400 = 0) ↔ isLeap year = true := by
    simp [isLeap]
  unfold daysBeforeYear
  cases h : isLeap year with
  | true =>
    have hsum : (monthLengths true).sum = 366 := rfl
    rw [hsum]
    have := hmod.mpr h
    omega
  | false =>
    have hsum : (monthLengths false).sum = 365 := rfl
    rw [hsum]
    have := mt hmod.mp (Bool.eq_false_iff.mp h)
    omega

theorem daysBeforeYear_mono {year year' : Int} (h : year ≤ year') :
    daysBeforeYear year ≤ daysBeforeYear year' := by
  have hmonotone : Monotone daysBeforeYear := monotone_int_of_le_succ fun year => by
    rw [daysBeforeYear_succ]
    omega
  exact hmonotone h

/-- The first and the last day of a span of years bound its years. -/
theorem yearOf_mem {first last day : Int} (hfirst : daysBeforeYear first ≤ day)
    (hlast : day < daysBeforeYear (last + 1)) : first ≤ yearOf day ∧ yearOf day ≤ last := by
  obtain ⟨hbegin, hend⟩ := yearOf_spec day
  constructor
  · by_contra h
    have := daysBeforeYear_mono (show yearOf day + 1 ≤ first by omega)
    omega
  · by_contra h
    have := daysBeforeYear_mono (show last + 1 ≤ yearOf day by omega)
    omega

/-! ## Months -/

/-- The month found is the first one that does not end before the day. -/
theorem monthOf_spec {lengths : List Nat} {month day : Nat} (h : day < lengths.sum) :
    ∃ k < lengths.length, ∃ rest < lengths.getD k 0,
      monthOf month day lengths = (month + k, rest + 1) ∧ day = (lengths.take k).sum + rest := by
  induction lengths generalizing month day with
  | nil => cases h
  | cons length lengths ih =>
    rw [List.sum_cons] at h
    rw [monthOf]
    split
    · next hday => exact ⟨0, Nat.zero_lt_succ _, day, hday, rfl, by simp⟩
    · next hday =>
      have hlt : day - length < lengths.sum := by omega
      obtain ⟨k, hk, rest, hrest, hmonth, hsum⟩ := @ih (month + 1) (day - length) hlt
      refine ⟨k + 1, Nat.succ_lt_succ hk, rest, hrest, ?_, ?_⟩
      · rw [hmonth, Nat.add_assoc, Nat.add_comm 1 k]
      · rw [List.take_succ_cons, List.sum_cons]
        omega

theorem monthLength_le (leap : Bool) (month : Nat) : monthLength leap month ≤ 31 := by
  have hall : ∀ leap, ∀ length ∈ monthLengths leap, length ≤ 31 := by decide
  rw [monthLength, List.getD_eq_getElem?_getD]
  cases h : (monthLengths leap)[month - 1]? with
  | none => exact Nat.zero_le 31
  | some length => exact hall leap length (List.mem_of_getElem? h)

/-! ## Dates -/

/-- **The date of a day exists, and it is the date of no other day.** -/
theorem dateOf_spec (number : Int) :
    (dateOf number).isValid = true ∧ (dateOf number).dayNumber = number ∧
      (dateOf number).year = yearOf (number + daysBefore1970) := by
  obtain ⟨hbegin, hend⟩ := yearOf_spec (number + daysBefore1970)
  rw [daysBeforeYear_succ] at hend
  unfold dateOf
  simp only
  generalize yearOf (number + daysBefore1970) = year at hbegin hend
  have hlt : (number + daysBefore1970 - daysBeforeYear year).toNat <
      (monthLengths (isLeap year)).sum := by omega
  obtain ⟨k, hk, rest, hrest, hmonth, hsum⟩ := @monthOf_spec _ 1 _ hlt
  have hlength : (monthLengths (isLeap year)).length = 12 := rfl
  rw [hmonth]
  simp only [Date.isValid, Date.dayNumber, monthLength, daysBeforeMonth, Nat.add_sub_cancel_left,
    ← List.sum_eq_foldl]
  refine ⟨?_, ?_, trivial⟩
  · simp only [Bool.and_eq_true, decide_eq_true_eq]
    omega
  · omega

/-- The years of timestamps are those of their range. -/
theorem year_dateOf_mem (t : Timestamp) :
    firstYear ≤ (dateOf (t.second / secondsPerDay)).year ∧
      (dateOf (t.second / secondsPerDay)).year ≤ lastYear := by
  obtain ⟨hfirst, hlast⟩ := t.inRange
  have hbegin : daysBeforeYear firstYear = -95745764 := rfl
  have hend : daysBeforeYear (lastYear + 1) = 95745765 := rfl
  unfold firstSecond at hfirst
  unfold lastSecond at hlast
  rw [(dateOf_spec _).2.2]
  refine yearOf_mem ?_ ?_
  · rw [hbegin, daysBefore1970, secondsPerDay]
    omega
  · rw [hend, daysBefore1970, secondsPerDay]
    omega

end IntentSelect.Timestamp
