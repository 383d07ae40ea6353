import IntentSelect.Proofs.CalendarDates
import Mathlib.Logic.Function.Iterate

/-! # Days counted one by one

The number of a date is computed from the days before its year and before its month.  Days may also
be counted: `Date.next` goes from one day to the next, at the end of a month to the first day of the
next month and at the end of a year to the first of January.  The numbers go up by one with each
step (`Date.dayNumber_next`), and no two dates have the same one, since an earlier date has a
smaller one (`Date.dayNumber_lt`).  So the number of a date is what is counted from 1 January 1970,
forwards or backwards, over leap years and over the year zero (`Date.isDaysAfter1970_iff`).
-/
namespace IntentSelect.Timestamp

/-! ## Months of a year -/

theorem daysBeforeMonth_succ (leap : Bool) {month : Nat} (h : 1 ≤ month ∧ month ≤ 12) :
    daysBeforeMonth leap (month + 1) = daysBeforeMonth leap month + monthLength leap month := by
  have hall : ∀ leap, ∀ month < 13, 1 ≤ month →
      daysBeforeMonth leap (month + 1) = daysBeforeMonth leap month + monthLength leap month := by
    decide
  exact hall leap month (by omega) h.1

theorem daysBeforeMonth_mono (leap : Bool) {month month' : Nat} (h : month ≤ month')
    (h' : month' ≤ 13) : daysBeforeMonth leap month ≤ daysBeforeMonth leap month' := by
  have hall : ∀ leap, ∀ month' < 14, ∀ month < month' + 1,
      daysBeforeMonth leap month ≤ daysBeforeMonth leap month' := by decide
  exact hall leap month' (by omega) month (by omega)

/-- The days before a thirteenth month are those of the year. -/
theorem daysBeforeMonth_thirteen (leap : Bool) :
    daysBeforeMonth leap 13 = (monthLengths leap).sum := by
  cases leap <;> rfl

theorem monthLength_pos (leap : Bool) {month : Nat} (h : 1 ≤ month ∧ month ≤ 12) :
    1 ≤ monthLength leap month := by
  have hall : ∀ leap, ∀ month < 13, 1 ≤ month → 1 ≤ monthLength leap month := by decide
  exact hall leap month (by omega) h.1

namespace Date
variable {d d' : Date} {n : Int}

theorem isValid_iff : d.isValid = true ↔ (1 ≤ d.month ∧ d.month ≤ 12) ∧ 1 ≤ d.day ∧
    d.day ≤ monthLength (isLeap d.year) d.month := by
  simp only [isValid, Bool.and_eq_true, decide_eq_true_eq, and_assoc]

/-! ## The next day -/

/-- The day after a date. -/
def next (d : Date) : Date :=
  if d.day < monthLength (isLeap d.year) d.month then { d with day := d.day + 1 }
  else if d.month < 12 then { d with month := d.month + 1, day := 1 }
  else ⟨d.year + 1, 1, 1⟩

theorem isValid_next (h : d.isValid = true) : d.next.isValid = true := by
  obtain ⟨hmonth, hday, hlast⟩ := isValid_iff.mp h
  rw [isValid_iff]
  unfold next
  split
  · next hlt => exact ⟨hmonth, Nat.le_add_left 1 _, hlt⟩
  split
  · next hlt =>
    have hnext : 1 ≤ d.month + 1 ∧ d.month + 1 ≤ 12 := by omega
    exact ⟨hnext, Nat.le_refl 1, monthLength_pos _ hnext⟩
  · have hjanuary : 1 ≤ 1 ∧ 1 ≤ 12 := by decide
    exact ⟨hjanuary, Nat.le_refl 1, monthLength_pos _ hjanuary⟩

/-- **The number of the next day is the next number.** -/
theorem dayNumber_next (h : d.isValid = true) : d.next.dayNumber = d.dayNumber + 1 := by
  obtain ⟨hmonth, hday, hlast⟩ := isValid_iff.mp h
  have hsucc := daysBeforeMonth_succ (isLeap d.year) hmonth
  unfold next
  split
  · simp only [dayNumber]
    omega
  split
  · simp only [dayNumber]
    omega
  · next hnot hdecember =>
    -- the last day of the last month is the last day of the year
    have htwelve : d.month = 12 := by omega
    have hyear := daysBeforeYear_succ d.year
    have htotal : daysBeforeMonth (isLeap d.year) (12 + 1) = _ := daysBeforeMonth_thirteen _
    have hjanuary : daysBeforeMonth (isLeap (d.year + 1)) 1 = 0 := rfl
    simp only [dayNumber, hyear, hjanuary]
    rw [htwelve] at hsucc hnot hlast ⊢
    omega

theorem iterate_next (h : d.isValid = true) (k : Nat) :
    (next^[k] d).isValid = true ∧ (next^[k] d).dayNumber = d.dayNumber + k := by
  induction k with
  | zero => exact ⟨h, (Int.add_zero _).symm⟩
  | succ k ih =>
    obtain ⟨hvalid, hnumber⟩ := ih
    rw [Function.iterate_succ_apply', dayNumber_next hvalid, hnumber]
    exact ⟨isValid_next hvalid, by omega⟩

/-! ## Earlier dates -/

/-- The date is the earlier of the two: in an earlier year, or in an earlier month of the same one,
or on an earlier day of the same month. -/
def Before (d d' : Date) : Prop :=
  d.year < d'.year ∨ d.year = d'.year ∧
    (d.month < d'.month ∨ d.month = d'.month ∧ d.day < d'.day)

theorem before_or_before (h : d ≠ d') : d.Before d' ∨ d'.Before d := by
  obtain ⟨year, month, day⟩ := d
  obtain ⟨year', month', day'⟩ := d'
  simp only [ne_eq, mk.injEq] at h
  simp only [Before]
  omega

/-- A date lies in its year. -/
theorem dayNumber_mem_year (h : d.isValid = true) :
    daysBeforeYear d.year ≤ d.dayNumber + daysBefore1970 ∧
      d.dayNumber + daysBefore1970 < daysBeforeYear (d.year + 1) := by
  obtain ⟨hmonth, hday, hlast⟩ := isValid_iff.mp h
  have hsucc := daysBeforeMonth_succ (isLeap d.year) hmonth
  have hmono := daysBeforeMonth_mono (isLeap d.year) (show d.month + 1 ≤ 13 by omega)
    (Nat.le_refl 13)
  have htotal := daysBeforeMonth_thirteen (isLeap d.year)
  rw [daysBeforeYear_succ]
  simp only [dayNumber]
  omega

/-- **An earlier date has a smaller number.** -/
theorem dayNumber_lt (h : d.isValid = true) (h' : d'.isValid = true) (hbefore : d.Before d') :
    d.dayNumber < d'.dayNumber := by
  obtain ⟨hmonth, hday, hlast⟩ := isValid_iff.mp h
  obtain ⟨hmonth', hday', -⟩ := isValid_iff.mp h'
  rcases hbefore with hyear | ⟨hyear, hmonths | ⟨hmonths, hdays⟩⟩
  · have hend := (dayNumber_mem_year h).2
    have hbegin := (dayNumber_mem_year h').1
    have hyears := daysBeforeYear_mono (show d.year + 1 ≤ d'.year by omega)
    omega
  · have hsucc := daysBeforeMonth_succ (isLeap d.year) hmonth
    have hmono := daysBeforeMonth_mono (isLeap d.year) (show d.month + 1 ≤ d'.month by omega)
      (by omega)
    simp only [dayNumber, ← hyear]
    omega
  · simp only [dayNumber, ← hyear, ← hmonths]
    omega

theorem eq_of_dayNumber_eq (h : d.isValid = true) (h' : d'.isValid = true)
    (heq : d.dayNumber = d'.dayNumber) : d = d' := by
  by_contra hne
  rcases before_or_before hne with hbefore | hbefore
  · exact Int.ne_of_lt (dayNumber_lt h h' hbefore) heq
  · exact Int.ne_of_gt (dayNumber_lt h' h hbefore) heq

/-! ## Counting -/

/-- The date is so many days after 1 January 1970, or before it if the number is negative.  Some day
is reached from both, and the number is the difference of the days that are counted on the way. -/
def IsDaysAfter1970 (d : Date) (n : Int) : Prop :=
  ∃ k l : Nat, next^[k] ⟨1970, 1, 1⟩ = next^[l] d ∧ n = k - l

/-- **The number of a date counts the days.** -/
theorem isDaysAfter1970_iff (h : d.isValid = true) : d.IsDaysAfter1970 n ↔ n = d.dayNumber := by
  have hfirst : (⟨1970, 1, 1⟩ : Date).isValid = true := by decide
  have hzero : (⟨1970, 1, 1⟩ : Date).dayNumber = 0 := by decide
  constructor
  · rintro ⟨k, l, hmeet, rfl⟩
    have hk := (iterate_next hfirst k).2
    rw [hmeet, (iterate_next h l).2] at hk
    omega
  · rintro rfl
    refine ⟨d.dayNumber.toNat, (-d.dayNumber).toNat, ?_, by omega⟩
    obtain ⟨hvalid, hnumber⟩ := iterate_next hfirst d.dayNumber.toNat
    obtain ⟨hvalid', hnumber'⟩ := iterate_next h (-d.dayNumber).toNat
    exact eq_of_dayNumber_eq hvalid hvalid' (by omega)

end Date

end IntentSelect.Timestamp
