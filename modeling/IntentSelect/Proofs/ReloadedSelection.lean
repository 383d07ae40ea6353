import IntentSelect.Proofs.ExperienceRoundTrip
import IntentSelect.Proofs.Survivors

/-! # Selection among experiences that are read back

An experience comes back in normal form (`Experience.normalize`).  The empty lists that its
expression has lost do not matter: it survives whenever the original does, with the same calls of
matchers and the same events (`Selector.matching_map_normalize`).

A stray leap second that has been settled may matter.  If two experiences have one priority, and the
update of one overtakes that of the other (`Experience.Overtakes`), then the one may rank ahead when
it is read back and behind before.  There is no other pair whose ranks change
(`Experience.compareRank_normalize`), so the same experience is selected unless such a pair matches
(`Selector.best?_map_normalize`).
-/
namespace IntentSelect

/-! ## Ranks -/

namespace Experience
variable {a b : Experience} {es : List Experience}

theorem isEnabled_normalize (e : Experience) : e.normalize.isEnabled = e.isEnabled := by
  unfold isEnabled normalize
  rw [Option.map_map]
  rfl

theorem priority_normalize (e : Experience) : e.normalize.priority = e.priority := by
  unfold priority normalize
  rw [Option.map_map]
  rfl

theorem ids_normalize (es : List Experience) :
    (es.map normalize).map id = es.map id := by
  rw [List.map_map]
  rfl

/-- The two have one priority, and the update of the first overtakes that of the second. -/
def Overtakes (a b : Experience) : Prop :=
  a.priority = b.priority ∧
    ∃ s t, a.updatedAt = some s ∧ b.updatedAt = some t ∧ s.Overtakes t

/-- Among the experiences none overtakes another. -/
def NoneOvertakes (es : List Experience) : Prop := ∀ a ∈ es, ∀ b ∈ es, ¬ a.Overtakes b

theorem Settled.not_overtakes (h : a.Settled) : ¬ a.Overtakes b := by
  rintro ⟨-, s, t, hs, -, hover⟩
  exact h s hs hover.1

theorem compareTimes_normalize (hp : a.priority = b.priority) (h : ¬ a.Overtakes b)
    (h' : ¬ b.Overtakes a) : a.normalize.compareTimes b.normalize = a.compareTimes b := by
  cases hs : a.updatedAt with
  | none =>
    have hs' : a.normalize.updatedAt = none :=
      congrArg (Option.map Timestamp.settled) hs
    rw [compareTimes_of_untimed (.inl hs), compareTimes_of_untimed (.inl hs')]
  | some s =>
    have hs' : a.normalize.updatedAt = some s.settled :=
      congrArg (Option.map Timestamp.settled) hs
    cases ht : b.updatedAt with
    | none =>
      have ht' : b.normalize.updatedAt = none :=
        congrArg (Option.map Timestamp.settled) ht
      rw [compareTimes_of_untimed (.inr ht), compareTimes_of_untimed (.inr ht')]
    | some t =>
      have ht' : b.normalize.updatedAt = some t.settled :=
        congrArg (Option.map Timestamp.settled) ht
      rw [compareTimes_of_timed hs ht, compareTimes_of_timed hs' ht']
      refine Timestamp.compare_settled_iff.mpr ⟨fun hover => ?_, fun hover => ?_⟩
      · exact h' ⟨hp.symm, t, s, ht, hs, hover⟩
      · exact h ⟨hp, s, t, hs, ht, hover⟩

/-- **Two experiences rank as they did, unless one overtakes the other.** -/
theorem compareRank_normalize (h : ¬ a.Overtakes b) (h' : ¬ b.Overtakes a) :
    a.normalize.compareRank b.normalize = a.compareRank b := by
  rw [compareRank_eq, compareRank_eq, priority_normalize, priority_normalize]
  by_cases hp : a.priority = b.priority
  · rw [compareTimes_normalize hp h h']
    rfl
  · -- the priorities decide
    cases hpriority : compare b.priority a.priority with
    | lt => rfl
    | eq => exact absurd (Int.compare_eq_eq.mp hpriority).symm hp
    | gt => rfl

theorem stronger_normalize (h : ¬ a.Overtakes b) (h' : ¬ b.Overtakes a) :
    stronger a.normalize b.normalize = (stronger a b).normalize := by
  rw [stronger, stronger, compareRank_normalize h' h]
  exact (apply_ite normalize _ _ _).symm

theorem stronger_mem (a b : Experience) : stronger a b = a ∨ stronger a b = b := by
  unfold stronger
  split
  · exact .inr rfl
  · exact .inl rfl

/-- The scan keeps the same experience if none that it goes through overtakes another. -/
theorem strongest?_map_normalize (h : NoneOvertakes es) :
    strongest? (es.map normalize) = (strongest? es).map normalize := by
  cases es with
  | nil => rfl
  | cons e es =>
    refine congrArg some ?_
    induction es generalizing e with
    | nil => rfl
    | cons d ds ih =>
      have he : e ∈ e :: d :: ds := List.mem_cons_self
      have hd : d ∈ e :: d :: ds := List.mem_cons_of_mem e List.mem_cons_self
      have hsub : stronger e d :: ds ⊆ e :: d :: ds := by
        refine List.cons_subset.mpr ⟨?_, fun x hx => by simp [hx]⟩
        rcases stronger_mem e d with hkept | hkept
        · rwa [hkept]
        · rwa [hkept]
      rw [List.map_cons, List.foldl_cons, stronger_normalize (h e he d hd) (h d hd e he),
        ih (stronger e d) fun a ha b hb => h a (hsub ha) b (hsub hb)]
      rfl

end Experience

/-! ## Selections -/

namespace Selector
open Experience

variable (s : Selector) (ctx : Context)

theorem holds_normalize (x : Option Expression) :
    s.holds ctx (x.map Expression.normalize) = s.holds ctx x := by
  cases x with
  | none => rfl
  | some x => exact x.evaluate_normalize

theorem survives_normalize (e : Experience) : s.survives ctx e.normalize = s.survives ctx e := by
  obtain ⟨id, title, kind, updatedAt, fastIntent, artifact⟩ := e
  cases fastIntent with
  | none => rfl
  | some f =>
    unfold survives
    simp only [Experience.normalize, Option.map_some, FastIntent.normalize, holds_normalize]

theorem survivors_map_normalize (es : List Experience) :
    s.survivors ctx (es.map Experience.normalize) =
      List.map Experience.normalize <$> s.survivors ctx es := by
  induction es with
  | nil => rfl
  | cons e es ih =>
    rw [List.map_cons, survivors, survivors, survives_normalize, ih, map_bind]
    refine bind_congr fun b => ?_
    rw [map_bind, bind_map_left]
    refine bind_congr fun rest => ?_
    cases b <;> rfl

/-- **The same candidates match**, with the same calls of matchers and the same events. -/
theorem matching_map_normalize (es : List Experience) :
    s.matching ctx (es.map Experience.normalize) =
      List.map Experience.normalize <$> s.matching ctx es := by
  unfold matching
  split
  · exact survivors_map_normalize s ctx es
  · rfl

theorem mem_of_mem_matching {s : Selector} {ctx : Context} {es : List Experience} {e : Experience}
    (h : e ∈ (s.matching ctx es).result) : e ∈ es := by
  unfold matching at h
  split at h
  · exact (mem_survivors.mp h).1
  · cases h

theorem report_map_normalize (e? : Option Experience) :
    report (e?.map Experience.normalize) = report e? := by
  cases e? <;> rfl

/-- **The same experience is selected**, with the same calls of matchers and the same events, if of
those that match none overtakes another. -/
theorem best?_map_normalize (es : List Experience)
    (h : NoneOvertakes (s.matching ctx es).result) :
    s.best? ctx (es.map Experience.normalize) =
      Option.map Experience.normalize <$> s.best? ctx es := by
  unfold best?
  split
  · rw [matching_map_normalize, bind_map_left, map_bind]
    -- only the list of those that match goes on
    refine Traced.bind_congr_result ?_
    simp only [strongest?_map_normalize h, report_map_normalize, map_bind, map_pure]
  · rfl

/-- To select is to call the matchers as matching does. -/
theorem calls_best? (es : List Experience) :
    (s.best? ctx es).calls = (s.matching ctx es).calls := by
  have hreport (e? : Option Experience) : (report e?).trace.filterMap Step.call? = [] := by
    cases e? <;> rfl
  unfold best?
  split
  · simp [Traced.calls, hreport]
  · next hs =>
    rw [matching, if_neg hs]
    rfl

/-- From two lists the same ids match and the same id is selected, with the same calls of matchers
and the same events, whatever selects and in whatever context. -/
def SelectAlike (es es' : List Experience) : Prop :=
  ∀ (s : Selector) (ctx : Context),
    List.map Experience.id <$> s.matching ctx es' = List.map Experience.id <$> s.matching ctx es ∧
    Option.map Experience.id <$> s.best? ctx es' = Option.map Experience.id <$> s.best? ctx es

/-- The same, except that another id may be selected, and reported, if of the experiences that match
one overtakes another. -/
def MatchAlike (es es' : List Experience) : Prop :=
  ∀ (s : Selector) (ctx : Context),
    List.map Experience.id <$> s.matching ctx es' = List.map Experience.id <$> s.matching ctx es ∧
    (s.best? ctx es').calls = (s.best? ctx es).calls ∧
    (NoneOvertakes (s.matching ctx es).result →
      Option.map Experience.id <$> s.best? ctx es' = Option.map Experience.id <$> s.best? ctx es)

theorem matchAlike_map_normalize (es : List Experience) :
    MatchAlike es (es.map Experience.normalize) := by
  intro s ctx
  refine ⟨?_, ?_, fun h => ?_⟩
  · rw [matching_map_normalize, Functor.map_map]
    exact congrArg (· <$> _) (funext ids_normalize)
  · rw [calls_best?, calls_best?, matching_map_normalize, Traced.calls, Traced.calls,
      Traced.trace_map]
  · rw [best?_map_normalize s ctx es h, Functor.map_map]
    refine congrArg (· <$> _) (funext fun e? => ?_)
    cases e? <;> rfl

theorem MatchAlike.selectAlike {es es' : List Experience} (h : MatchAlike es es')
    (hes : NoneOvertakes es) : SelectAlike es es' := by
  intro s ctx
  obtain ⟨hmatching, -, hbest⟩ := h s ctx
  refine ⟨hmatching, hbest fun a ha b hb => ?_⟩
  exact hes a (mem_of_mem_matching ha) b (mem_of_mem_matching hb)

end Selector

end IntentSelect
