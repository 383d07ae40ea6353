import IntentSelect.Proofs.Decisions
import IntentSelect.Proofs.ExpressionTree
import IntentSelect.Selector

/-! # Failures stay where they are

A condition that fails counts as false.  That this is all it does is not a statement
about one run: under a negation a false condition makes a true expression, and what is
evaluated after it depends on it.  So two runs are compared, one with a registry in
which conditions of some kinds fail, one with a registry in which matchers that always
say no have taken over these kinds (`Registry.Silences`).  The runs are alike
(`Traced.Alike`): they give the same result, and but for steps about these
kinds they do the same.

Being alike is carried by the bind of traces, so it goes from single decisions
through expressions (`alike_evaluate`) and candidates (`alike_survivors`) to the selection
(`alike_best?`).
-/
namespace IntentSelect

open Text

/-! ## Runs that are alike -/

namespace Traced
variable {α β : Type} {F : String → Prop} [DecidablePred F] {t u : Traced α}

/-- What is done besides deciding conditions of the kinds in `F`. -/
def outside (F : String → Prop) [DecidablePred F] (t : Traced α) : List Step :=
  t.trace.filter fun s => !s.conditionKind?.any (F ·)

/-- The calls of matchers for other kinds than those in `F`. -/
def callsOutside (F : String → Prop) [DecidablePred F] (t : Traced α) :
    List (String × Condition) :=
  t.calls.filter fun call => !F call.1

/-- Two runs give the same result and differ at most in what they do about conditions
of the kinds in `F`. -/
structure Alike (F : String → Prop) [DecidablePred F] (t u : Traced α) : Prop where
  result : t.result = u.result
  outside : t.outside F = u.outside F

theorem Alike.refl (t : Traced α) : Alike F t t := ⟨rfl, rfl⟩

theorem Alike.bind {f g : α → Traced β} (h : Alike F t u) (h' : ∀ x, Alike F (f x) (g x)) :
    Alike F (t >>= f) (u >>= g) := by
  refine ⟨?_, ?_⟩
  · rw [result_bind, result_bind, h.result]
    exact (h' _).result
  · -- the results are the same, so the continuations are compared at one and the same
    have hrest := (h' u.result).outside
    have hfirst := h.outside
    simp only [Traced.outside] at hfirst hrest ⊢
    rw [trace_bind, trace_bind, List.filter_append, List.filter_append, hfirst, h.result, hrest]

theorem callsOutside_eq (t : Traced α) :
    t.callsOutside F = (t.outside F).filterMap Step.call? := by
  rw [callsOutside, calls, outside, List.filter_filterMap, List.filterMap_filter]
  refine congrArg (List.filterMap · t.trace) (funext fun s => ?_)
  cases s with
  | call kind c => by_cases hF : F kind <;> simp [Step.call?, Step.conditionKind?, hF]
  | log e => simp [Step.call?]

theorem Alike.callsOutside (h : Alike F t u) : t.callsOutside F = u.callsOutside F := by
  rw [callsOutside_eq, callsOutside_eq, h.outside]

end Traced

open Traced (Alike)

/-! ## From decisions to expressions -/

namespace Expression
variable {F : String → Prop} [DecidablePred F] {d d' : Condition → Traced Bool}

theorem alike_evaluateWhile {es : List Expression} (go : Bool)
    (ih : ∀ e ∈ es, (∀ c ∈ e.conditions, Alike F (d c) (d' c)) →
      Alike F (e.evaluate d) (e.evaluate d'))
    (h : ∀ c ∈ allConditions es, Alike F (d c) (d' c)) :
    Alike F (evaluateWhile d go es) (evaluateWhile d' go es) := by
  induction es with
  | nil => exact .refl _
  | cons e es ihes =>
    obtain ⟨ihe, ihrest⟩ := List.forall_mem_cons.mp ih
    obtain ⟨he, hes⟩ := List.forall_mem_append.mp h
    refine (ihe he).bind fun b => ?_
    split
    · exact ihes ihrest hes
    · exact .refl _

/-- If the decisions of its conditions are alike, the evaluations of an expression are. -/
theorem alike_evaluate {e : Expression} (h : ∀ c ∈ e.conditions, Alike F (d c) (d' c)) :
    Alike F (e.evaluate d) (e.evaluate d') := by
  induction e with
  | not child ih => exact (ih h).bind fun b => .refl _
  | allOf es ih =>
    rw [evaluate_allOf, evaluate_allOf]
    split
    · exact .refl _
    · exact alike_evaluateWhile true ih h
  | anyOf es ih =>
    rw [evaluate_anyOf, evaluate_anyOf]
    split
    · exact .refl _
    · exact alike_evaluateWhile false ih h
  | condition c => exact h c (List.mem_singleton.mpr rfl)
  | empty => exact .refl _

end Expression

/-! ## From expressions to selection -/

/-- The conditions that an experience depends on. -/
def Experience.conditions (x : Experience) : List Condition :=
  match x.fastIntent.bind FastIntent.expression with
  | some e => e.conditions
  | none => []

namespace Selector
variable {F : String → Prop} [DecidablePred F] {r r' : Registry} {ctx ctx' : Context}
  {x : Experience} {candidates : List Experience} {enabled : Bool}

theorem alike_survives (h : ∀ c ∈ x.conditions, Alike F (r.decide ctx c) (r'.decide ctx' c)) :
    Alike F (survives ⟨r, enabled⟩ ctx x) (survives ⟨r', enabled⟩ ctx' x) := by
  unfold survives
  split
  case h_2 => exact .refl _
  case h_1 f hf =>
    split
    case isFalse => exact .refl _
    case isTrue =>
      cases hx : f.expression with
      | none => exact .refl _
      | some e =>
        have hconditions : x.conditions = e.conditions := by
          simp only [Experience.conditions, hf, Option.bind_some, hx]
        exact Expression.alike_evaluate (hconditions ▸ h)

theorem alike_survivors
    (h : ∀ x ∈ candidates, ∀ c ∈ x.conditions, Alike F (r.decide ctx c) (r'.decide ctx' c)) :
    Alike F (survivors ⟨r, enabled⟩ ctx candidates) (survivors ⟨r', enabled⟩ ctx' candidates) := by
  induction candidates with
  | nil => exact .refl _
  | cons x xs ih =>
    obtain ⟨hx, hxs⟩ := List.forall_mem_cons.mp h
    exact (alike_survives hx).bind fun b => (ih hxs).bind fun rest => .refl _

theorem alike_matching
    (h : ∀ x ∈ candidates, ∀ c ∈ x.conditions, Alike F (r.decide ctx c) (r'.decide ctx' c)) :
    Alike F (matching ⟨r, enabled⟩ ctx candidates) (matching ⟨r', enabled⟩ ctx' candidates) := by
  cases enabled with
  | true => exact alike_survivors h
  | false => exact .refl _

theorem alike_best?
    (h : ∀ x ∈ candidates, ∀ c ∈ x.conditions, Alike F (r.decide ctx c) (r'.decide ctx' c)) :
    Alike F (best? ⟨r, enabled⟩ ctx candidates) (best? ⟨r', enabled⟩ ctx' candidates) := by
  cases enabled with
  | true => exact (alike_matching h).bind fun found => .refl _
  | false => exact .refl _

end Selector

/-! ## Registries in which kinds are silenced -/

/-- The matcher that says no to every condition of a kind. -/
def Matcher.silent (kind : String) : Matcher := ⟨kind, fun _ _ => .decided false⟩

namespace Registry
variable {F : String → Prop} [DecidablePred F] {r r' : Registry} {ctx : Context} {c : Condition}

/-- `r'` is `r`, except that matchers that always say no decide the conditions of those kinds
in `F` that are not blank. -/
structure Silences (F : String → Prop) (r r' : Registry) : Prop where
  silent : ∀ kind, F kind → hasText kind = true →
    ∃ m, r'.get? kind = some m ∧ ∀ c ctx, m.run c ctx = .decided false
  same : ∀ kind, ¬ F kind → r'.get? kind = r.get? kind

/-- Registers matchers that always say no for those kinds that are not blank. -/
def silence (kinds : List String) (r : Registry) : Registry :=
  (kinds.filter hasText).foldr (fun kind r => r.put (.silent kind)) r

theorem get?_silence (kinds : List String) (r : Registry) (kind : String) :
    (r.silence kinds).get? kind =
      if kind ∈ kinds.filter hasText then some (.silent kind) else r.get? kind := by
  unfold silence
  induction kinds.filter hasText with
  | nil => rfl
  | cons k ks ih =>
    rw [List.foldr_cons, get?_put, ih]
    by_cases hk : k = kind
    · simp [Matcher.silent, hk]
    · simp [Matcher.silent, hk, Ne.symm hk]

theorem silences_silence (kinds : List String) (r : Registry) :
    Silences (· ∈ kinds) r (r.silence kinds) where
  silent kind hkind htext := by
    refine ⟨.silent kind, ?_, fun _ _ => rfl⟩
    rw [get?_silence, if_pos (List.mem_filter.mpr ⟨hkind, htext⟩)]
  same kind hkind := by
    rw [get?_silence, if_neg fun h => hkind (List.mem_filter.mp h).1]

omit [DecidablePred F] in
/-- A silenced condition is false. -/
theorem Silences.result_decide (h : Silences F r r') (hc : F c.kind) :
    (r'.decide ctx c).result = false := by
  cases ht : hasText c.kind with
  | false => rw [decide_of_blank r' ctx ht]
  | true =>
    obtain ⟨m, hm, hrun⟩ := h.silent c.kind hc ht
    rw [decide_of_registered ctx ht hm, hrun]
    rfl

theorem outside_decide (ctx : Context) (hc : F c.kind) : (r.decide ctx c).outside F = [] := by
  refine List.filter_eq_nil_iff.mpr fun s hs => ?_
  simp [kind_of_mem_trace_decide hs, hc]

theorem Silences.alike_decide (h : Silences F r r') (hfails : F c.kind → r.Fails ctx c) :
    Alike F (r.decide ctx c) (r'.decide ctx c) := by
  by_cases hc : F c.kind
  · -- neither decision gives true, and neither leaves anything outside the kinds in `F`
    refine ⟨?_, ?_⟩
    · rw [(hfails hc).result_decide, h.result_decide hc]
    · rw [outside_decide ctx hc, outside_decide ctx hc]
  · rw [decide_congr ctx (h.same c.kind hc)]
    exact .refl _

namespace Mishaps

/-- A context with a state that crashes on every key. -/
def context : Context :=
  { input := some "hi", state := some ⟨fun _ => .crashed ⟨some "gone"⟩⟩ }

def registry : Registry := (build [] {}).result

/-- A blank kind, an unknown one and two kinds of built-in matchers. -/
def troubled : List String := [" ", "nonesuch", "message_regex", "state_equals"]

/-- Under negations, four conditions that fail; then one that holds. -/
def expression : Expression := .allOf [
  .not (.condition { kind := " " }),
  .not (.condition { kind := "nonesuch" }),
  .not (.condition { kind := "message_regex", pattern := some "(" }),
  .not (.condition { kind := "state_equals", key := some "k", value := some "v" }),
  .condition { kind := "message_prefix", value := some "h" }]

theorem fails : ∀ c ∈ expression.conditions, c.kind ∈ troubled → registry.Fails context c := by
  intro c hc hkind
  simp only [expression, Expression.conditions, Expression.allConditions, List.cons_append,
    List.nil_append, List.mem_cons, List.not_mem_nil, or_false] at hc
  rcases hc with rfl | rfl | rfl | rfl | rfl
  · exact .blank rfl
  · exact .unknown rfl
  · exact .of_invalidPattern rfl rfl rfl rfl
  · exact .of_stateCrash rfl rfl rfl
  · exact absurd hkind (by decide)

end Mishaps

end Registry

end IntentSelect
