import IntentSelect.Proofs.BestMatch
import IntentSelect.Proofs.ByteOrder
import Mathlib.Data.List.Nodup

/-! # When ranking is transitive

Ranking fails to be transitive only where an experience without a time stands, by its id, between
two with a time: behind the one that has been changed earlier and ahead of the one that has been
changed later, all at one priority (`Straddled`).  Such three are a rotation
(`Straddled.rotation`).

There are no others.  If ranking were not transitive at three experiences, the last of them would
be ahead of the first, so they would be a rotation; in a rotation exactly one member has no time
(`Rotation.one_untimed`), and read from the member after it the three are straddled
(`Rotation.straddled`).
-/
namespace IntentSelect.Experience

open Text

variable {a b c x y z : Experience} {es : List Experience}

theorem compare_id_eq_lt_iff : compare a.id b.id = .lt ↔ utf8 a.id < utf8 b.id :=
  compareOfLessAndEq_eq_lt.trans lt_iff_utf8_lt

/-- At one priority, `x` has been changed later than `y`, and `z`, which has no time, stands between
them by its id, with `y` before it and `x` behind it. -/
structure Straddled (x y z : Experience) : Prop where
  level_left : x.priority = z.priority
  level_right : y.priority = z.priority
  later : ∃ s t, x.updatedAt = some s ∧ y.updatedAt = some t ∧ t.compare s = .lt
  untimed : z.updatedAt = none
  before : utf8 y.id < utf8 z.id
  behind : utf8 z.id < utf8 x.id

/-- The later one is ahead of the earlier one by its time, and the other two comparisons are left to
the ids. -/
theorem Straddled.rotation (h : Straddled x y z) : Rotation x y z := by
  obtain ⟨s, t, hx, hy, hlater⟩ := h.later
  refine ⟨?_, ?_, ?_⟩
  · rw [compareRank_of_timed (h.level_left.trans h.level_right.symm) hx hy]
    exact Ordering.then_eq_lt.mpr (.inl hlater)
  · rw [compareRank_of_untimed h.level_right (.inr h.untimed)]
    exact compare_id_eq_lt_iff.mpr h.before
  · rw [compareRank_of_untimed h.level_left.symm (.inl h.untimed)]
    exact compare_id_eq_lt_iff.mpr h.behind

namespace Rotation

/-- A rotation whose last member has no time. -/
theorem straddled (h : Rotation a b c) (hc : c.updatedAt = none) : Straddled a b c := by
  obtain ⟨hpb, hpc⟩ := h.priority_eq
  have hbefore : utf8 b.id < utf8 c.id := by
    rw [← compare_id_eq_lt_iff, ← compareRank_of_untimed (hpb.trans hpc.symm) (.inr hc)]
    exact h.second
  have hbehind : utf8 c.id < utf8 a.id := by
    rw [← compare_id_eq_lt_iff, ← compareRank_of_untimed hpc (.inl hc)]
    exact h.third
  obtain ⟨s, hs⟩ : ∃ s, a.updatedAt = some s :=
    Option.ne_none_iff_exists'.mp (h.rotate.rotate.not_two_untimed hc)
  obtain ⟨t, ht⟩ : ∃ t, b.updatedAt = some t :=
    Option.ne_none_iff_exists'.mp fun hb => h.rotate.not_two_untimed hb hc
  have hfirst := h.first
  rw [compareRank_of_timed hpb.symm hs ht] at hfirst
  refine ⟨hpc.symm, hpb.trans hpc.symm, ⟨s, t, hs, ht, ?_⟩, hc, hbefore, hbehind⟩
  rcases Ordering.then_eq_lt.mp hfirst with hlater | ⟨-, hids⟩
  · exact hlater
  · -- the ids are the other way round
    have hab : utf8 a.id < utf8 b.id := compare_id_eq_lt_iff.mp hids
    exact absurd (List.lt_trans hbefore hbehind) (List.lt_asymm hab)

/-- The members of a rotation are straddled in one of three orders. -/
theorem exists_straddled (h : Rotation a b c) :
    Straddled a b c ∨ Straddled b c a ∨ Straddled c a b := by
  by_cases hc : c.updatedAt = none
  · exact .inl (h.straddled hc)
  by_cases ha : a.updatedAt = none
  · exact .inr (.inl (h.rotate.straddled ha))
  by_cases hb : b.updatedAt = none
  · exact .inr (.inr (h.rotate.rotate.straddled hb))
  have hone := h.one_untimed
  simp [ha, hb, hc] at hone

end Rotation

/-- Whatever comes out for a first and a second experience of a list, and again for the second and a
third, comes out for the first and the third. -/
def RanksTransitively (es : List Experience) : Prop :=
  ∀ outcome : Ordering, ∀ a ∈ es, ∀ b ∈ es, ∀ c ∈ es,
    a.compareRank b = outcome → b.compareRank c = outcome → a.compareRank c = outcome

theorem RanksTransitively.not_rotation (h : RanksTransitively es) (ha : a ∈ es) (hb : b ∈ es)
    (hc : c ∈ es) : ¬ Rotation a b c := by
  intro hrot
  have hac : a.compareRank c = .lt := h .lt a ha b hb c hc hrot.first hrot.second
  exact Std.OrientedCmp.not_lt_of_lt hac hrot.third

/-- Without rotations, being ahead is transitive. -/
theorem compareRank_lt_trans (h : ¬ Rotation a b c) (hid : a.id = c.id → a = c)
    (hab : a.compareRank b = .lt) (hbc : b.compareRank c = .lt) : a.compareRank c = .lt := by
  by_cases hne : a.id = c.id
  · obtain rfl := hid hne
    exact absurd hbc (Std.OrientedCmp.not_lt_of_lt hab)
  · exact compareRank_eq_lt_of_id_ne hne fun hca => h ⟨hab, hbc, hca⟩

theorem ranksTransitively_of_no_rotation (hids : (es.map Experience.id).Nodup)
    (h : ∀ a ∈ es, ∀ b ∈ es, ∀ c ∈ es, ¬ Rotation a b c) : RanksTransitively es := by
  have hinj {x y : Experience} (hx : x ∈ es) (hy : y ∈ es) (hid : x.id = y.id) : x = y :=
    List.inj_on_of_nodup_map hids hx hy hid
  intro outcome a ha b hb c hc hab hbc
  cases outcome with
  | lt => exact compareRank_lt_trans (h a ha b hb c hc) (hinj ha hc) hab hbc
  | eq =>
    obtain rfl := hinj ha hb (id_eq_of_compareRank_eq hab)
    exact hbc
  | gt =>
    -- the same, read from the other end
    rw [Std.OrientedCmp.gt_iff_lt] at hab hbc ⊢
    exact compareRank_lt_trans (h c hc b hb a ha) (hinj hc ha) hbc hab

/-- **When ranking is an order.**  Among experiences with different ids, swapping two swaps the
outcome, no two different ones come out level, and ranking is transitive exactly if no three of them
are straddled. -/
theorem ranksTransitively_iff (hids : (es.map Experience.id).Nodup) :
    (∀ a ∈ es, ∀ b ∈ es, b.compareRank a = (a.compareRank b).swap) ∧
    (∀ a ∈ es, ∀ b ∈ es, a ≠ b → a.compareRank b ≠ .eq) ∧
    (RanksTransitively es ↔ ¬ ∃ x ∈ es, ∃ y ∈ es, ∃ z ∈ es, Straddled x y z) := by
  refine ⟨fun a _ b _ => Std.OrientedCmp.eq_swap, fun a ha b hb hne heq => ?_, ?_, ?_⟩
  · exact hne (List.inj_on_of_nodup_map hids ha hb (id_eq_of_compareRank_eq heq))
  · rintro htrans ⟨x, hx, y, hy, z, hz, hstraddled⟩
    exact htrans.not_rotation hx hy hz hstraddled.rotation
  · intro hnone
    refine ranksTransitively_of_no_rotation hids fun a ha b hb c hc hrot => hnone ?_
    rcases hrot.exists_straddled with h | h | h
    · exact ⟨a, ha, b, hb, c, hc, h⟩
    · exact ⟨b, hb, c, hc, a, ha, h⟩
    · exact ⟨c, hc, a, ha, b, hb, h⟩

open Selector.Greetings in
/-- Ranking is not transitive on three greetings whose ids are in the order of their times, with one
in the middle that has no time; without that one it is. -/
theorem ranksTransitively_iff_greetings :
    ([older, untimed, newer].map Experience.id).Nodup ∧
    ¬ RanksTransitively [older, untimed, newer] ∧ ([older, newer].map Experience.id).Nodup ∧
    RanksTransitively [older, newer] := by
  have hids : ([older, untimed, newer].map Experience.id).Nodup := by decide
  have hids' : ([older, newer].map Experience.id).Nodup := by decide
  have hstraddled : Straddled newer older untimed :=
    ⟨rfl, rfl, ⟨summer, spring, rfl, rfl, by decide⟩, rfl, by decide, by decide⟩
  refine ⟨hids, fun htrans => ?_, hids', (ranksTransitively_iff hids').2.2.mpr ?_⟩
  · exact (ranksTransitively_iff hids).2.2.mp htrans
      ⟨newer, by simp, older, by simp, untimed, by simp, hstraddled⟩
  · rintro ⟨x, -, y, -, z, hz, hstraddled⟩
    have htimed : z.updatedAt ≠ none := by
      simp only [List.mem_cons, List.not_mem_nil, or_false] at hz
      obtain rfl | rfl := hz <;> exact Option.some_ne_none _
    exact htimed hstraddled.untimed

end IntentSelect.Experience
