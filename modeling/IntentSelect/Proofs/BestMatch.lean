import IntentSelect.Proofs.Survivors

/-! # The best match

What `Selector.best?` promises about the experience that it selects, for every
selector, context and list of candidates.

* `selection_leads`: without survivors nothing is selected.  Otherwise a survivor of
  the highest priority is selected, which is not behind any survivor after it and
  reaches every survivor; and a survivor that is ahead of all others is selected
  wherever it stands.
* `selection_outranked_iff`: if the candidates have different ids, another survivor is
  ahead of the selected one exactly if the selected one is part of a rotation.
* `selection_order_independent_iff`: the order of such candidates does not matter exactly if
  one of the survivors is ahead of all others.

That the exception is real is shown by three greetings: each is ahead of another,
so whichever is selected is outranked (`selection_outranked_greetings`).
-/
namespace IntentSelect.Selector
open Experience

/-! ## Three greetings -/

namespace Greetings

def spring : Timestamp := ⟨1704067200, 0, by decide, by decide⟩

def summer : Timestamp := ⟨1717200000, 0, by decide, by decide⟩

/-- Holds of an input that begins with `h`. -/
def part : FastIntent :=
  .ofExpression (.condition { kind := "message_prefix", value := some "h" })

def older : Experience := { id := "a", updatedAt := some spring, fastIntent := some part }

def untimed : Experience := { id := "b", fastIntent := some part }

def newer : Experience := { id := "c", updatedAt := some summer, fastIntent := some part }

/-- The selector of the default configuration, without matchers of the host. -/
def selector : Selector := (Selector.build [] {}).result

def context : Context := { input := some "hi" }

theorem rotation : Rotation newer older untimed := ⟨rfl, rfl, rfl⟩

theorem survives_of_part {e : Experience} (h : e.fastIntent = some part) :
    selector.Survives context e :=
  ⟨part, _, h, rfl, rfl, rfl⟩

end Greetings

/-! ## What is selected -/

/-- **The selected experience.**  If there are no survivors, nothing is selected.
Otherwise the selected experience `w` is a survivor with the highest priority; it
has a place among the candidates behind which no survivor is ahead of it; every
survivor is reached from it by a chain of survivors none of which is behind the
next; and it is the survivor that is ahead of all others, if there is one. -/
theorem selection_leads (s : Selector) (hs : s.enabled = true) (ctx : Context)
    (candidates : List Experience) :
    ((s.best? ctx candidates).result = none ↔ ∀ c ∈ candidates, ¬ s.Survives ctx c) ∧
    ∀ w, (s.best? ctx candidates).result = some w →
      (w ∈ candidates ∧ s.Survives ctx w) ∧
      (∀ c ∈ candidates, s.Survives ctx c → c.priority ≤ w.priority) ∧
      (∃ before after, candidates = before ++ w :: after ∧
        (∀ b, (s.best? ctx before).result = some b → w.compareRank b = .lt) ∧
        ∀ c ∈ after, s.Survives ctx c → c.compareRank w ≠ .lt) ∧
      (∀ c ∈ candidates, s.Survives ctx c →
        Reaches (fun e => e ∈ candidates ∧ s.Survives ctx e) w c) ∧
      ∀ m ∈ candidates, s.Survives ctx m →
        (∀ c ∈ candidates, s.Survives ctx c → c ≠ m → m.compareRank c = .lt) → w = m := by
  refine ⟨best?_eq_none_iff hs, ?_⟩
  intro w hw
  have hlead := leader_of_best? hw
  refine ⟨⟨hlead.mem, hlead.survives⟩, ?_, hlead.placed, hlead.reaches, ?_⟩
  · intro c hc hsurv
    exact hlead.priority_le hc hsurv
  · intro m hm hsurv hahead
    exact hlead.eq_of_ahead hm hsurv hahead

open Greetings in
/-- Of the three greetings the newer one is selected if it comes last. -/
theorem selection_leads_greetings :
    selector.enabled = true ∧
    (selector.best? context [older, untimed, newer]).result = some newer ∧
    (∀ c ∈ [older, untimed, newer], selector.Survives context c →
      Reaches (fun e => e ∈ [older, untimed, newer] ∧ selector.Survives context e) newer c) :=
  have hleads := (selection_leads selector rfl context [older, untimed, newer]).2 newer rfl
  ⟨rfl, rfl, hleads.2.2.2.1⟩

/-! ## When something is ahead of it -/

/-- **Being outranked.**  Among candidates with different ids, some survivor is
ahead of the selected experience `w` exactly if `w` is part of a rotation of three
survivors, and exactly if some survivor is ahead of every survivor, so that
nothing better could have been selected.  The members of such a rotation have the
highest priority, and exactly one of them has no time. -/
theorem selection_outranked_iff (s : Selector) (ctx : Context) {candidates : List Experience}
    (hids : (candidates.map Experience.id).Nodup) {w : Experience}
    (hw : (s.best? ctx candidates).result = some w) :
    (s.Outranked ctx candidates w ↔ ∃ x ∈ candidates, ∃ y ∈ candidates,
      s.Survives ctx x ∧ s.Survives ctx y ∧ Rotation w x y) ∧
    (s.Outranked ctx candidates w ↔
      ∀ m ∈ candidates, s.Survives ctx m → s.Outranked ctx candidates m) ∧
    ∀ x y, Rotation w x y →
      (∀ c ∈ candidates, s.Survives ctx c → c.priority ≤ w.priority) ∧
      x.priority = w.priority ∧ y.priority = w.priority ∧
      [w, x, y].countP (fun e => e.updatedAt.isNone) = 1 := by
  have hlead := leader_of_best? hw
  refine ⟨⟨hlead.exists_rotation hids, ?_⟩, ⟨?_, ?_⟩, ?_⟩
  · rintro ⟨x, -, y, hy, -, hys, hrot⟩
    exact ⟨y, hy, hys, hrot.third⟩
  · intro hout m hm hsurv
    exact hlead.all_outranked hids hout hm hsurv
  · intro hall
    exact hall w hlead.mem hlead.survives
  · intro x y hrot
    obtain ⟨hx, hy⟩ := hrot.priority_eq
    exact ⟨fun c hc hsurv => hlead.priority_le hc hsurv, hx, hy, hrot.one_untimed⟩

open Greetings in
/-- Of the three greetings, every one is outranked. -/
theorem selection_outranked_iff_greetings :
    ([older, untimed, newer].map Experience.id).Nodup ∧
    (selector.best? context [older, untimed, newer]).result = some newer ∧
    ∀ m ∈ [older, untimed, newer], selector.Survives context m →
      selector.Outranked context [older, untimed, newer] m := by
  have hids : ([older, untimed, newer].map Experience.id).Nodup := by decide
  have hiff := selection_outranked_iff selector context hids (w := newer) rfl
  exact ⟨hids, rfl, hiff.2.1.mp
    ⟨untimed, by simp, survives_of_part rfl, Greetings.rotation.third⟩⟩

open Greetings in
/-- Different ids do not keep the selected experience from being outranked: of the
three greetings the newer one is selected, although the one without a time, which
survives too, is ahead of it. -/
theorem selection_outranked_greetings :
    ¬ ∀ (s : Selector) (ctx : Context) (candidates : List Experience) (w : Experience),
      (candidates.map Experience.id).Nodup → (s.best? ctx candidates).result = some w →
      ∀ c ∈ candidates, s.Survives ctx c → c.compareRank w ≠ .lt := by
  intro h
  exact h selector context [older, untimed, newer] newer (by decide) rfl untimed (by simp)
    (survives_of_part rfl) Greetings.rotation.third

/-! ## When the order of the candidates matters -/

theorem best?_isSome (s : Selector) (hs : s.enabled = true) {ctx : Context}
    {candidates : List Experience} (hsome : ∃ c ∈ candidates, s.Survives ctx c) :
    ∃ w, (s.best? ctx candidates).result = some w := by
  obtain ⟨c, hc, hsurv⟩ := hsome
  cases hw : (s.best? ctx candidates).result with
  | none => exact absurd hsurv ((best?_eq_none_iff hs).mp hw c hc)
  | some w => exact ⟨w, rfl⟩

/-- An experience that is selected when it comes first is not outranked. -/
theorem not_outranked_of_first {s : Selector} {ctx : Context} {rest : List Experience}
    {w : Experience} (hw : w ∉ rest) (h : (s.best? ctx (w :: rest)).result = some w) :
    ∀ c ∈ rest, s.Survives ctx c → c.compareRank w ≠ .lt := by
  obtain ⟨before, after, hsplit, -, hafter⟩ := (leader_of_best? h).placed
  cases before with
  | nil =>
    rw [List.nil_append, List.cons.injEq] at hsplit
    exact hsplit.2 ▸ hafter
  | cons b bs =>
    -- a second place of `w` would be in the rest
    rw [List.cons_append, List.cons.injEq] at hsplit
    exact absurd (hsplit.2 ▸ by simp) hw

/-- A survivor that is ahead of all others is selected in every order. -/
theorem best?_eq_of_ahead {s : Selector} (hs : s.enabled = true) {ctx : Context}
    {candidates l : List Experience} (hl : l.Perm candidates) {m : Experience}
    (hm : m ∈ candidates) (hsurv : s.Survives ctx m)
    (hahead : ∀ c ∈ candidates, s.Survives ctx c → c ≠ m → m.compareRank c = .lt) :
    (s.best? ctx l).result = some m := by
  have hml := hl.mem_iff.mpr hm
  obtain ⟨w, hw⟩ := best?_isSome s hs ⟨m, hml, hsurv⟩
  have hwm : w = m := (leader_of_best? hw).eq_of_ahead hml hsurv
    fun c hc => hahead c (hl.mem_iff.mp hc)
  rw [hw, hwm]

/-- What is selected in every order, and so also when it comes first, is not
outranked. -/
theorem not_outranked_of_order_independent {s : Selector} {ctx : Context}
    {candidates : List Experience} (hids : (candidates.map Experience.id).Nodup)
    {w : Experience} (hw : (s.best? ctx candidates).result = some w)
    (horder : ∀ l, l.Perm candidates → (s.best? ctx l).result = some w) :
    ¬ s.Outranked ctx candidates w := by
  rintro ⟨c, hc, hsurv, hlt⟩
  obtain ⟨before, after, rfl, -, -⟩ := (leader_of_best? hw).placed
  -- put first, `w` has all other candidates behind it in the scan
  have hperm : (before ++ w :: after).Perm (w :: (before ++ after)) := List.perm_middle
  have hnot : w ∉ before ++ after :=
    (List.nodup_cons.mp (hperm.nodup_iff.mp (List.Nodup.of_map _ hids))).1
  have hfirst := not_outranked_of_first hnot (horder _ hperm.symm)
  rcases List.mem_cons.mp (hperm.mem_iff.mp hc) with rfl | hrest
  · exact Std.OrientedCmp.not_lt_of_lt hlt hlt
  · exact hfirst c hrest hsurv hlt

/-- **Order.**  For candidates with different ids of which one survives, the same
experience is selected in every order exactly if some survivor is ahead of all
others.  That is so if the survivors of the highest priority all have a time, and
if they all have none. -/
theorem selection_order_independent_iff (s : Selector) (hs : s.enabled = true) (ctx : Context)
    {candidates : List Experience} (hids : (candidates.map Experience.id).Nodup)
    (hsome : ∃ c ∈ candidates, s.Survives ctx c) :
    ((∀ l, l.Perm candidates → (s.best? ctx l).result = (s.best? ctx candidates).result) ↔
      ∃ m ∈ candidates, s.Survives ctx m ∧
        ∀ c ∈ candidates, s.Survives ctx c → c ≠ m → m.compareRank c = .lt) ∧
    ((∀ c, s.HasTopPriority ctx candidates c → c.updatedAt.isSome = true) ∨
      (∀ c, s.HasTopPriority ctx candidates c → c.updatedAt = none) →
      ∀ l, l.Perm candidates → (s.best? ctx l).result = (s.best? ctx candidates).result) := by
  obtain ⟨w, hw⟩ := best?_isSome s hs hsome
  have hlead := leader_of_best? hw
  have key : ¬ s.Outranked ctx candidates w →
      ∀ l, l.Perm candidates → (s.best? ctx l).result = some w := by
    intro hnot l hl
    have hahead := ahead_of_not_outranked hids hlead.mem hnot
    exact best?_eq_of_ahead hs hl hlead.mem hlead.survives hahead
  rw [hw]
  refine ⟨⟨?_, ?_⟩, ?_⟩
  · intro horder
    have hnot := not_outranked_of_order_independent hids hw horder
    exact ⟨w, hlead.mem, hlead.survives, ahead_of_not_outranked hids hlead.mem hnot⟩
  · rintro ⟨m, hm, hsurv, hahead⟩ l hl
    rw [best?_eq_of_ahead hs hl hm hsurv hahead, hlead.eq_of_ahead hm hsurv hahead]
  · intro huniform
    exact key (hlead.not_outranked_of_uniform hids huniform)

open Greetings in
/-- Of the two greetings that have a time, the same one is selected in either order. -/
theorem selection_order_independent_iff_greetings :
    selector.enabled = true ∧ ([older, newer].map Experience.id).Nodup ∧
    selector.Survives context older ∧
    ∀ l, l.Perm [older, newer] →
      (selector.best? context l).result = (selector.best? context [older, newer]).result := by
  have hids : ([older, newer].map Experience.id).Nodup := by decide
  have hsurv : selector.Survives context older := survives_of_part rfl
  have hiff := selection_order_independent_iff selector rfl context hids ⟨older, by simp, hsurv⟩
  refine ⟨rfl, hids, hsurv, hiff.2 (Or.inl ?_)⟩
  rintro c ⟨hc, -⟩
  rcases List.mem_cons.mp hc with rfl | hc
  · rfl
  · rw [List.mem_singleton.mp hc]; rfl

end IntentSelect.Selector
