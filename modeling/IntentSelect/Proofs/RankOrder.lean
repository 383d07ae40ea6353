import IntentSelect.Ranking

/-! # The order that ranking makes

`Experience.compareRank` goes through a list of keys.  Written out it is one
comparison (`compareRank_eq`): by priority, then by the times of the last change,
then by id.  It is oriented — swapping the experiences swaps the outcome — and
two experiences come out level only if they have the same id.

It is not transitive.  The times of two experiences count only if both have one,
so an experience without a time can stand between two that have one: behind the
older of the two by its id, ahead of the newer one by its id, while the newer one
is ahead of the older one by its time.  `Rotation` is such a round of three.
What a rotation looks like is settled here: its members have one priority, and
exactly one of them has no time (`Rotation.one_untimed`).
-/
namespace IntentSelect

instance : Std.TransCmp Timestamp.compare :=
  inferInstanceAs
    (Std.TransCmp (compareLex (compareOn Timestamp.second) (compareOn Timestamp.nano)))

namespace Experience
variable {a b c : Experience}

/-! ## The keys in one comparison -/

/-- The comparison by the times of the last change, the later first.  Experiences
of which one has no time are level. -/
def compareTimes (a b : Experience) : Ordering :=
  ((a.compareUpdates b).map Ordering.swap).getD .eq

theorem compareTimes_of_untimed (h : a.updatedAt = none ∨ b.updatedAt = none) :
    a.compareTimes b = .eq := by
  unfold compareTimes compareUpdates
  rcases h with h | h
  · simp [h]
  · cases a.updatedAt <;> simp [h]

theorem compareTimes_of_timed {s t : Timestamp} (ha : a.updatedAt = some s)
    (hb : b.updatedAt = some t) : a.compareTimes b = t.compare s := by
  simp only [compareTimes, compareUpdates, ha, hb, Option.map_some, Option.getD_some]
  exact Std.OrientedCmp.eq_swap.symm

theorem compareTimes_swap (a b : Experience) : b.compareTimes a = (a.compareTimes b).swap := by
  cases ha : a.updatedAt with
  | none => rw [compareTimes_of_untimed (Or.inl ha), compareTimes_of_untimed (Or.inr ha)]; rfl
  | some s =>
    cases hb : b.updatedAt with
    | none => rw [compareTimes_of_untimed (Or.inl hb), compareTimes_of_untimed (Or.inr hb)]; rfl
    | some t =>
      rw [compareTimes_of_timed hb ha, compareTimes_of_timed ha hb]
      exact Std.OrientedCmp.eq_swap

/-- **Ranking is one comparison**: by priority, the higher first; by time, the
later first; by id, the smaller first. -/
theorem compareRank_eq (a b : Experience) :
    a.compareRank b = (compare b.priority a.priority).then
      ((a.compareTimes b).then (compare a.id b.id)) := by
  have hswap : compare b.priority a.priority = (compare a.priority b.priority).swap :=
    Std.OrientedOrd.eq_swap
  have hdir : Direction.descending.apply = Ordering.swap := rfl
  rw [hswap]
  unfold compareRank ranking compareTimes
  simp only [List.map, RankKey.apply, Option.map_some, Option.getD_some, Direction.apply, hdir]
  cases (compare a.priority b.priority).swap <;>
    cases ((a.compareUpdates b).map Ordering.swap).getD .eq <;>
    cases compare a.id b.id <;> rfl

instance : Std.OrientedCmp compareRank where
  eq_swap {a b} := by
    rw [compareRank_eq a b, compareRank_eq b a, Ordering.swap_then, Ordering.swap_then,
      ← compareTimes_swap b a, ← Std.OrientedOrd.eq_swap, ← Std.OrientedOrd.eq_swap]

/-- Level experiences have the same id. -/
theorem id_eq_of_compareRank_eq (h : a.compareRank b = .eq) : a.id = b.id := by
  rw [compareRank_eq, Ordering.then_eq_eq, Ordering.then_eq_eq] at h
  exact Std.LawfulEqOrd.eq_of_compare h.2.2

/-- An experience that is not behind another has at least its priority. -/
theorem priority_le_of_compareRank (h : a.compareRank b ≠ .gt) : b.priority ≤ a.priority := by
  rw [compareRank_eq] at h
  exact Int.compare_ne_gt.mp fun hgt => h (by rw [hgt]; rfl)

theorem compareRank_of_priority_eq (h : a.priority = b.priority) :
    a.compareRank b = (a.compareTimes b).then (compare a.id b.id) := by
  rw [compareRank_eq, h, Std.ReflOrd.compare_self, Ordering.eq_then]

/-- At one priority, experiences of which one has no time are ranked by their ids. -/
theorem compareRank_of_untimed (hp : a.priority = b.priority)
    (h : a.updatedAt = none ∨ b.updatedAt = none) :
    a.compareRank b = compare a.id b.id := by
  rw [compareRank_of_priority_eq hp, compareTimes_of_untimed h, Ordering.eq_then]

/-- The order of times, the later first. -/
def laterFirst (x y : Timestamp × String) : Ordering := y.1.compare x.1

instance : Std.TransCmp laterFirst where
  eq_swap {x y} := (Std.OrientedCmp.eq_swap : y.1.compare x.1 = (x.1.compare y.1).swap)
  isLE_trans {x _ z} h h' :=
    (Std.TransCmp.isLE_trans h' h : (z.1.compare x.1).isLE = true)

/-- The order of times and ids, the later time first. -/
def compareTimed : Timestamp × String → Timestamp × String → Ordering :=
  compareLex laterFirst (compareOn Prod.snd)

instance : Std.TransCmp compareTimed :=
  inferInstanceAs (Std.TransCmp (compareLex laterFirst (compareOn Prod.snd)))

/-- At one priority, experiences with a time are ranked by time and id. -/
theorem compareRank_of_timed (hp : a.priority = b.priority) {s t : Timestamp}
    (ha : a.updatedAt = some s) (hb : b.updatedAt = some t) :
    a.compareRank b = compareTimed (s, a.id) (t, b.id) := by
  rw [compareRank_of_priority_eq hp, compareTimes_of_timed ha hb]
  rfl

/-- Of two experiences with different ids, one is ahead. -/
theorem compareRank_eq_lt_of_id_ne (hid : a.id ≠ b.id) (h : b.compareRank a ≠ .lt) :
    a.compareRank b = .lt := by
  cases hab : a.compareRank b with
  | lt => rfl
  | eq => exact absurd (id_eq_of_compareRank_eq hab) hid
  | gt => exact absurd (Std.OrientedCmp.gt_iff_lt.mp hab) h

/-! ## Rotations -/

/-- Three experiences of which each is ahead of the next, and the last ahead of
the first. -/
structure Rotation (a b c : Experience) : Prop where
  first : a.compareRank b = .lt
  second : b.compareRank c = .lt
  third : c.compareRank a = .lt

namespace Rotation

theorem rotate (h : Rotation a b c) : Rotation b c a := ⟨h.second, h.third, h.first⟩

theorem priority_eq (h : Rotation a b c) :
    b.priority = a.priority ∧ c.priority = a.priority := by
  have hab := priority_le_of_compareRank (by rw [h.first]; decide)
  have hbc := priority_le_of_compareRank (by rw [h.second]; decide)
  have hca := priority_le_of_compareRank (by rw [h.third]; decide)
  omega

/-- Two members without a time would leave all three comparisons to the ids. -/
theorem not_two_untimed (h : Rotation a b c) (ha : a.updatedAt = none) :
    b.updatedAt ≠ none := by
  intro hb
  obtain ⟨hpb, hpc⟩ := h.priority_eq
  have hab : compare a.id b.id = .lt :=
    (compareRank_of_untimed hpb.symm (Or.inl ha)).symm.trans h.first
  have hbc : compare b.id c.id = .lt :=
    (compareRank_of_untimed (hpb.trans hpc.symm) (Or.inl hb)).symm.trans h.second
  have hca : compare c.id a.id = .lt :=
    (compareRank_of_untimed hpc (Or.inr ha)).symm.trans h.third
  exact Std.OrientedCmp.not_lt_of_lt hca (Std.TransCmp.lt_trans hab hbc)

/-- Three members with a time would be ranked by time and id, in a linear order. -/
theorem not_all_timed (h : Rotation a b c) {s t u : Timestamp} (ha : a.updatedAt = some s)
    (hb : b.updatedAt = some t) (hc : c.updatedAt = some u) : False := by
  obtain ⟨hpb, hpc⟩ := h.priority_eq
  have hab : compareTimed (s, a.id) (t, b.id) = .lt :=
    (compareRank_of_timed hpb.symm ha hb).symm.trans h.first
  have hbc : compareTimed (t, b.id) (u, c.id) = .lt :=
    (compareRank_of_timed (hpb.trans hpc.symm) hb hc).symm.trans h.second
  have hca : compareTimed (u, c.id) (s, a.id) = .lt :=
    (compareRank_of_timed hpc hc ha).symm.trans h.third
  exact Std.OrientedCmp.not_lt_of_lt hca (Std.TransCmp.lt_trans hab hbc)

/-- **The form of a rotation**: exactly one of its three members has no time. -/
theorem one_untimed (h : Rotation a b c) :
    [a, b, c].countP (fun e => e.updatedAt.isNone) = 1 := by
  cases ha : a.updatedAt with
  | none =>
    have hb : b.updatedAt ≠ none := h.not_two_untimed ha
    have hc : c.updatedAt ≠ none := fun hc => h.rotate.rotate.not_two_untimed hc ha
    simp [ha, hb, hc]
  | some s =>
    cases hb : b.updatedAt with
    | none =>
      have hc : c.updatedAt ≠ none := h.rotate.not_two_untimed hb
      simp [ha, hb, hc]
    | some t =>
      cases hc : c.updatedAt with
      | none => simp [ha, hb, hc]
      | some u => exact (h.not_all_timed ha hb hc).elim

end Rotation

end Experience

end IntentSelect
