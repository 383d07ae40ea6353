import IntentSelect.Catalog
import IntentSelect.Proofs.Survivors
import IntentSelect.Proofs.Visits

/-! # What a selection does

A selection goes through the candidates in order.  What it does about one of them can be said
from the candidate alone (`Selector.stepsFor`): a note if it has no enabled fast-intent part, and
one evaluation of its expression otherwise.  What it does about all of them is that, one after
another (`trace_matching`), and the only thing that comes after it is the announcement of what
is selected.

Steps of evaluations are about conditions, so notes and announcements can be told from them.
Two views of a catalog, all of its experiences and those that are enabled, therefore give the same
selection with the same calls, and differ in the notes only (`selection_traced`).  The two tests
for being enabled are written apart, one over the parts of an experience (`Selector.survives`) and
one as a property of it (`Experience.isEnabled`).
-/
namespace IntentSelect

/-! ## Kinds of steps -/

/-- True if a candidate is passed over because its fast-intent part is not there or not enabled. -/
def Step.isSkip : Step → Bool
  | .log (.experienceSkipped _) => true
  | _ => false

theorem Step.isSkip_of_conditionKind {step : Step} {kind : String}
    (h : step.conditionKind? = some kind) : step.isSkip = false := by
  cases step with
  | call k c => rfl
  | log e => cases e <;> first | rfl | cases h

/-- Events about conditions are warnings. -/
theorem Event.level_of_conditionKind {e : Event} {kind : String}
    (h : e.conditionKind? = some kind) : e.level = .warn := by
  cases e <;> first | rfl | cases h

/-- Everything that an evaluation does is about some condition. -/
theorem Registry.exists_kind_of_mem_trace_evaluate {r : Registry} {ctx : Context} {e : Expression}
    {step : Step} (h : step ∈ (r.evaluate ctx e).trace) :
    ∃ kind, step.conditionKind? = some kind := by
  rw [evaluate, Expression.trace_evaluate, Expression.steps, List.mem_flatMap] at h
  obtain ⟨visit, -, hstep⟩ := h
  exact ⟨visit.2.kind, kind_of_mem_trace_decide hstep⟩

/-- Leaving out notes leaves the calls of matchers as they are. -/
theorem Traced.calls_eq_of_filter {α : Type} {t u : Traced α}
    (h : t.trace = u.trace.filter fun step => !step.isSkip) : t.calls = u.calls := by
  rw [calls, calls, h, List.filterMap_filter]
  refine List.filterMap_congr fun step _ => ?_
  cases step with
  | call kind c => rfl
  | log e => exact ite_self none

namespace Selector
open Experience

variable {s : Selector} {ctx : Context} {e : Experience} {step : Step}

/-! ## One candidate -/

/-- What is done about a candidate: it is passed over with a note if it is not enabled, and its
expression, if it has one, is evaluated once otherwise. -/
def stepsFor (s : Selector) (ctx : Context) (e : Experience) : List Step :=
  if e.isEnabled then
    match e.fastIntent.bind FastIntent.expression with
    | some x => (s.registry.evaluate ctx x).trace
    | none => []
  else [.log (.experienceSkipped e.id)]

theorem trace_survives (s : Selector) (ctx : Context) (e : Experience) :
    (s.survives ctx e).trace = s.stepsFor ctx e := by
  cases hf : e.fastIntent with
  | none => simp [survives, stepsFor, isEnabled, hf, Traced.log, Traced.step]
  | some f =>
    cases hen : f.enabled with
    | false => simp [survives, stepsFor, isEnabled, hf, hen, Traced.log, Traced.step]
    | true =>
      cases hx : f.expression <;>
        simp [survives, stepsFor, isEnabled, holds, Registry.holds, hf, hen, hx]

/-- Only candidates that are enabled survive. -/
theorem isEnabled_of_survives (h : (s.survives ctx e).result = true) : e.isEnabled = true := by
  obtain ⟨f, -, hf, hen, -⟩ := result_survives_iff.mp h
  rw [isEnabled, hf]
  exact hen

/-- About a candidate that is enabled, nothing is noted. -/
theorem isSkip_of_mem_stepsFor (hen : e.isEnabled = true) (h : step ∈ s.stepsFor ctx e) :
    step.isSkip = false := by
  rw [stepsFor, if_pos hen] at h
  split at h
  · obtain ⟨kind, hkind⟩ := Registry.exists_kind_of_mem_trace_evaluate h
    exact Step.isSkip_of_conditionKind hkind
  · cases h

/-- Nothing is announced while the candidates are gone through. -/
theorem level_of_mem_stepsFor {event : Event} (h : .log event ∈ s.stepsFor ctx e) :
    event.level ≠ .info := by
  unfold stepsFor at h
  split at h
  · split at h
    · obtain ⟨kind, hkind⟩ := Registry.exists_kind_of_mem_trace_evaluate h
      rw [Event.level_of_conditionKind hkind]
      exact nofun
    · cases h
  · obtain rfl := Step.log.inj (List.mem_singleton.mp h)
    exact nofun

/-! ## All candidates -/

theorem trace_survivors (s : Selector) (ctx : Context) (candidates : List Experience) :
    (s.survivors ctx candidates).trace = candidates.flatMap (s.stepsFor ctx) := by
  induction candidates with
  | nil => rfl
  | cons e es ih =>
    simp only [survivors, Traced.trace_bind, Traced.trace_pure, List.append_nil, trace_survives, ih,
      List.flatMap_cons]

/-- What is done about candidates is what is done about each, in order. -/
theorem trace_matching (hs : s.enabled = true) (ctx : Context) (candidates : List Experience) :
    (s.matching ctx candidates).trace = candidates.flatMap (s.stepsFor ctx) := by
  rw [matching, if_pos hs, trace_survivors]

/-- What is announced of a selection. -/
def announced (best : Option Experience) : List Event :=
  (best.map fun w => .experienceFound w.id w.kind.name w.title).toList

theorem filter_announced (best : Option Experience) :
    ((announced best).map Step.log).filter (fun step => !step.isSkip) =
      (announced best).map .log := by
  cases best <;> rfl

theorem trace_best? (hs : s.enabled = true) (ctx : Context) (candidates : List Experience) :
    (s.best? ctx candidates).trace = (s.matching ctx candidates).trace ++
      (announced (s.best? ctx candidates).result).map .log := by
  have hreport : ∀ best, (report best).trace = (announced best).map .log := by
    intro best
    cases best <;> rfl
  simp only [best?, if_pos hs, Traced.trace_bind, Traced.result_bind, Traced.result_pure,
    Traced.trace_pure, List.append_nil, hreport]

/-- Of what a selection reports, the announcement alone is an information. -/
theorem infos_best? (hs : s.enabled = true) (ctx : Context) (candidates : List Experience) :
    (s.best? ctx candidates).events.filter (fun e => e.level = .info) =
      announced (s.best? ctx candidates).result := by
  -- what is done about the candidates are notes and steps of evaluations, no informations
  have hmatching : (s.matching ctx candidates).events.filter (fun e => e.level = .info) = [] := by
    refine List.filter_eq_nil_iff.mpr fun event hevent => ?_
    rw [Traced.events, trace_matching hs] at hevent
    obtain ⟨step, hstep, hlog⟩ := List.mem_filterMap.mp hevent
    obtain ⟨e, -, hstep⟩ := List.mem_flatMap.mp hstep
    cases step with
    | call kind c => cases hlog
    | log event' =>
      cases hlog
      simpa using level_of_mem_stepsFor hstep
  rw [Traced.events, trace_best? hs, List.filterMap_append, List.filter_append]
  rw [← Traced.events, hmatching, List.nil_append]
  cases (s.best? ctx candidates).result <;> rfl

/-! ## Two views of the candidates -/

/-- Candidates that are not enabled leave nothing behind but notes. -/
theorem flatMap_stepsFor_filter (s : Selector) (ctx : Context) (candidates : List Experience) :
    (candidates.filter isEnabled).flatMap (s.stepsFor ctx) =
      (candidates.flatMap (s.stepsFor ctx)).filter fun step => !step.isSkip := by
  induction candidates with
  | nil => rfl
  | cons e es ih =>
    rw [List.flatMap_cons, List.filter_append, ← ih]
    cases hen : e.isEnabled with
    | true =>
      have hkept : (s.stepsFor ctx e).filter (fun step => !step.isSkip) = s.stepsFor ctx e := by
        refine List.filter_eq_self.mpr fun step hstep => ?_
        rw [isSkip_of_mem_stepsFor hen hstep]
        rfl
      rw [hkept, List.filter_cons_of_pos hen, List.flatMap_cons]
    | false =>
      have hskip : (s.stepsFor ctx e).filter (fun step => !step.isSkip) = [] := by
        rw [stepsFor, hen]
        rfl
      rw [hskip, List.nil_append, List.filter_cons_of_neg (by simp [hen])]

theorem result_survivors_filter (s : Selector) (ctx : Context) (candidates : List Experience) :
    (s.survivors ctx (candidates.filter isEnabled)).result =
      (s.survivors ctx candidates).result := by
  rw [result_survivors, result_survivors, List.filter_filter]
  refine List.filter_congr fun e _ => ?_
  cases h : (s.survives ctx e).result with
  | true => rw [isEnabled_of_survives h]; rfl
  | false => rfl

/-- **What a selection does.**  Going through the candidates, a selector that is switched on does
for each of them, in order, what is to be done for it: nothing but a note if it is not enabled,
and otherwise what one evaluation of its expression does.  A selection does the same and then
announces what it selects, if anything; this is the only information among its events.

Selecting from all experiences of a catalog or from those that are enabled gives the same
experience with the same calls of matchers, and what is done differs by the notes alone. -/
theorem selection_traced {s : Selector} (hs : s.enabled = true) (ctx : Context) :
    (∀ candidates, (s.matching ctx candidates).trace = candidates.flatMap (s.stepsFor ctx)) ∧
    (∀ candidates,
      (s.best? ctx candidates).trace = (s.matching ctx candidates).trace ++
        (announced (s.best? ctx candidates).result).map .log ∧
      (s.best? ctx candidates).events.filter (fun e => e.level = .info) =
        announced (s.best? ctx candidates).result) ∧
    ∀ catalog : Catalog,
      (s.best? ctx catalog.candidates).result = (s.best? ctx catalog.toList).result ∧
      (s.best? ctx catalog.candidates).calls = (s.best? ctx catalog.toList).calls ∧
      (s.best? ctx catalog.candidates).trace =
        (s.best? ctx catalog.toList).trace.filter fun step => !step.isSkip := by
  refine ⟨trace_matching hs ctx, fun candidates => ⟨trace_best? hs ctx candidates,
    infos_best? hs ctx candidates⟩, fun catalog => ?_⟩
  have hresult : (s.best? ctx catalog.candidates).result = (s.best? ctx catalog.toList).result := by
    rw [result_best? hs, result_best? hs, Catalog.candidates, result_survivors_filter]
  have htrace : (s.best? ctx catalog.candidates).trace =
      (s.best? ctx catalog.toList).trace.filter fun step => !step.isSkip := by
    rw [trace_best? hs, trace_best? hs, hresult, trace_matching hs, trace_matching hs,
      Catalog.candidates, flatMap_stepsFor_filter, List.filter_append, filter_announced]
  exact ⟨hresult, Traced.calls_eq_of_filter htrace, htrace⟩

/-! ### Three candidates -/

namespace Waiting

def condition : Condition := { kind := "message_prefix", value := some "h" }

/-- One that is not enabled, one without an expression, and one that matches. -/
def candidates : List Experience := [
  { id := "a", fastIntent := some { expression := some (.condition condition) } },
  { id := "b", fastIntent := some { enabled := true } },
  { id := "c", title := "Hello", fastIntent := some (.ofExpression (.condition condition)) }]

def selector : Selector := (Selector.build [] {}).result

def context : Context := { input := some "hi" }

end Waiting

open Waiting in
/-- The first is passed over with a note, about the second nothing is done, and the third is
evaluated and announced. -/
theorem selection_traced_waiting :
    selector.enabled = true ∧
    candidates.flatMap (selector.stepsFor context) =
      [.log (.experienceSkipped "a"), .call "message_prefix" condition] ∧
    (selector.best? context candidates).trace =
      [.log (.experienceSkipped "a"), .call "message_prefix" condition,
        .log (.experienceFound "c" "COMMON" "Hello")] := by
  obtain ⟨hmatching, hbest, -⟩ := selection_traced (s := selector) rfl context
  have hsteps : candidates.flatMap (selector.stepsFor context) =
      [.log (.experienceSkipped "a"), .call "message_prefix" condition] := by rfl
  refine ⟨rfl, hsteps, ?_⟩
  rw [(hbest candidates).1, hmatching candidates, hsteps]
  rfl

end Selector

end IntentSelect
