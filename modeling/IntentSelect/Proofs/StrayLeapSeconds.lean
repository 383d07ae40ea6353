import IntentSelect.Timestamp.Basic

/-! # Leap seconds in the middle of a minute

A leap second is written as the second after the one that it follows.  After the last second of a
minute that is the second 60, which is no other time; after any other second it is the next second
of the minute, which is a time of its own.  `IsStray` are the leap seconds of the second kind, and
`settled` is the time that their text has.

A stray leap second lies before the whole of the next second.  Once settled it lies within that
second, and so after those times of it which it has overtaken (`Overtakes`).  All other comparisons
are kept (`compare_settled_iff`).
-/
namespace IntentSelect.Timestamp
variable {s t s' t' : Timestamp}

/-! ## The time of a text -/

/-- A leap second after a second that is not the last one of a minute. -/
def IsStray (t : Timestamp) : Prop := 1000000000 ≤ t.nano ∧ t.second % 60 ≠ 59

instance (t : Timestamp) : Decidable t.IsStray := inferInstanceAs (Decidable (_ ∧ _))

/-- A second that is not the last one of a minute is not the last one of all. -/
theorem IsStray.inRange (h : t.IsStray) :
    firstSecond ≤ t.second + 1 ∧ t.second + 1 ≤ lastSecond := by
  obtain ⟨hfirst, hlast⟩ := t.inRange
  have hminute := h.2
  unfold firstSecond at hfirst ⊢
  unfold lastSecond at hlast ⊢
  omega

/-- The time that the text of a timestamp has: a stray leap second counts as the next second. -/
def settled (t : Timestamp) : Timestamp :=
  if h : t.IsStray then
    ⟨t.second + 1, t.nano - 1000000000, h.inRange, Nat.lt_of_le_of_lt (Nat.sub_le ..) t.nano_lt⟩
  else t

theorem settled_of_not_isStray (h : ¬ t.IsStray) : t.settled = t := dif_neg h

theorem settled_cases (t : Timestamp) :
    t.IsStray ∧ t.settled.second = t.second + 1 ∧ t.settled.nano + 1000000000 = t.nano ∨
      ¬ t.IsStray ∧ t.settled.second = t.second ∧ t.settled.nano = t.nano := by
  unfold settled
  split
  · next h => exact .inl ⟨h, rfl, Nat.sub_add_cancel h.1⟩
  · next h => exact .inr ⟨h, rfl, rfl⟩

/-! ## The order of times -/

theorem compare_eq_lt_iff : s.compare t = .lt ↔
    s.second < t.second ∨ s.second = t.second ∧ s.nano < t.nano := by
  rw [compare, Ordering.then_eq_lt, Int.compare_eq_lt, Int.compare_eq_eq, Nat.compare_eq_lt]

theorem compare_eq_gt_iff : s.compare t = .gt ↔
    t.second < s.second ∨ t.second = s.second ∧ t.nano < s.nano := by
  rw [compare, Ordering.then_eq_gt, Int.compare_eq_gt, Int.compare_eq_eq, Nat.compare_eq_gt]
  simp only [eq_comm]

/-- Two comparisons have one outcome if they agree on what is earlier and on what is later. -/
theorem compare_eq_compare_iff : s'.compare t' = s.compare t ↔
    (s'.compare t' = .lt ↔ s.compare t = .lt) ∧ (s'.compare t' = .gt ↔ s.compare t = .gt) := by
  cases s'.compare t' <;> cases s.compare t <;> decide

/-- The first is a stray leap second; the other lies in the next second, in which the first is no
earlier once it is settled. -/
def Overtakes (s t : Timestamp) : Prop :=
  s.IsStray ∧ t.second = s.second + 1 ∧ t.nano + 1000000000 ≤ s.nano

/-- **Times are compared as their texts are, unless one overtakes the other.** -/
theorem compare_settled_iff : s.settled.compare t.settled = s.compare t ↔
    ¬ s.Overtakes t ∧ ¬ t.Overtakes s := by
  have hs := s.nano_lt
  have ht := t.nano_lt
  have hs' := s.settled_cases
  have ht' := t.settled_cases
  rw [compare_eq_compare_iff, compare_eq_lt_iff, compare_eq_lt_iff, compare_eq_gt_iff,
    compare_eq_gt_iff]
  unfold Overtakes
  unfold IsStray at hs' ht' ⊢
  rcases hs' with ⟨hstray, hsecond, hnano⟩ | ⟨hstray, hsecond, hnano⟩
  · rcases ht' with ⟨hstray', hsecond', hnano'⟩ | ⟨hstray', hsecond', hnano'⟩
    · -- both move by a second
      omega
    · -- the first moves into the next second, in which the other may be
      omega
  · rcases ht' with ⟨hstray', hsecond', hnano'⟩ | ⟨hstray', hsecond', hnano'⟩
    · omega
    · -- neither moves
      rw [hsecond, hnano, hsecond', hnano']
      omega

end IntentSelect.Timestamp
