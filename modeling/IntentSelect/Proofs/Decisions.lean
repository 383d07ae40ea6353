import IntentSelect.Evaluation

/-! # Decisions of single conditions

What a registry does about one condition.  A blank kind is passed over in silence, an
unknown one is warned of, and for any other the matcher is called, with a warning
after the call if it gives no answer.  All that happens is about the kind of the condition
(`kind_of_mem_trace_decide`).

`Registry.Fails` collects the ways in which a condition can fail.  Whichever it is, the
condition is decided, and false (`Fails.result_decide`).
-/
namespace IntentSelect

open Text

/-! ## What a step is about -/

/-- The kind of conditions that an event of an evaluation is about. -/
def Event.conditionKind? : Event → Option String
  | .unknownKind kind | .matcherFailed kind _ | .matcherCrashed kind _ => some kind
  | _ => none

/-- The kind of conditions that a step is about. -/
def Step.conditionKind? : Step → Option String
  | .call kind _ => some kind
  | .log e => e.conditionKind?

namespace Registry
variable {r r' : Registry} {ctx : Context} {c : Condition} {m : Matcher}

/-! ## Deciding -/

theorem decide_of_blank (r : Registry) (ctx : Context) (h : hasText c.kind = false) :
    r.decide ctx c = ⟨false, []⟩ := by
  simp only [decide, h]
  rfl

theorem decide_of_unknown (ctx : Context) (h : hasText c.kind = true)
    (hm : r.get? c.kind = none) :
    r.decide ctx c = ⟨false, [.log (.unknownKind c.kind)]⟩ := by
  simp only [decide, h, hm]
  rfl

theorem decide_of_registered (ctx : Context) (h : hasText c.kind = true)
    (hm : r.get? c.kind = some m) :
    r.decide ctx c = ⟨(m.run c ctx).isTrue,
      .call c.kind c :: (report c.kind (m.run c ctx)).trace⟩ := by
  simp only [decide, h, hm]
  refine Traced.ext rfl ?_
  simp [Traced.step]

/-- A decision depends on nothing but the matcher for the kind. -/
theorem decide_congr (ctx : Context) (h : r.get? c.kind = r'.get? c.kind) :
    r.decide ctx c = r'.decide ctx c := by
  simp only [decide, h]

/-- Everything that a decision does is about the kind of the condition. -/
theorem kind_of_mem_trace_decide {s : Step} (hs : s ∈ (r.decide ctx c).trace) :
    s.conditionKind? = some c.kind := by
  cases ht : hasText c.kind with
  | false =>
    rw [decide_of_blank r ctx ht] at hs
    cases hs
  | true =>
    cases hm : r.get? c.kind with
    | none =>
      rw [decide_of_unknown ctx ht hm, List.mem_singleton] at hs
      rw [hs]
      rfl
    | some m =>
      rw [decide_of_registered ctx ht hm, List.mem_cons] at hs
      rcases hs with rfl | hs
      · rfl
      · cases ho : m.run c ctx <;> rw [ho] at hs
        · cases hs
        · rw [List.mem_singleton.mp hs]; rfl
        · rw [List.mem_singleton.mp hs]; rfl

/-! ## Failing -/

/-- A condition fails: its kind is blank or unknown, or the matcher for it returns an
error or crashes. -/
inductive Fails (r : Registry) (ctx : Context) (c : Condition) : Prop where
  | blank (h : hasText c.kind = false)
  | unknown (h : r.get? c.kind = none)
  | failed (m : Matcher) (e : Error) (hm : r.get? c.kind = some m) (h : m.run c ctx = .failed e)
  | crashed (m : Matcher) (crash : Crash) (hm : r.get? c.kind = some m)
    (h : m.run c ctx = .crashed crash)

/-- A pattern that cannot be compiled within the limit makes its condition fail. -/
theorem Fails.of_invalidPattern {limit : Nat} {input pattern : String} {problem : Pattern.Problem}
    (hm : r.get? c.kind = some ⟨"message_regex", Condition.patternOutcome limit⟩)
    (hinput : whenText ctx.input = some input) (hpattern : whenText c.pattern = some pattern)
    (h : Pattern.compile limit pattern = .error problem) : r.Fails ctx c :=
  .failed _ (.invalidPattern pattern problem.message) hm
    (by simp only [Condition.patternOutcome, hinput, hpattern, h])

/-- A state that crashes on the key of a condition about it makes the condition fail. -/
theorem Fails.of_stateCrash {key : String} {crash : Crash}
    (hm : r.get? c.kind = some ⟨"state_equals", Condition.stateOutcome⟩)
    (hkey : whenText c.key = some key) (h : ctx.stateValue key = .crashed crash) :
    r.Fails ctx c :=
  .crashed _ crash hm (by simp only [Condition.stateOutcome, hkey, h])

/-- A condition that fails is false. -/
theorem Fails.result_decide (h : r.Fails ctx c) : (r.decide ctx c).result = false := by
  cases ht : hasText c.kind with
  | false => rw [decide_of_blank r ctx ht]
  | true =>
    cases h with
    | blank h => rw [h] at ht; cases ht
    | unknown hm => rw [decide_of_unknown ctx ht hm]
    | failed m e hm h => rw [decide_of_registered ctx ht hm, h]; rfl
    | crashed m crash hm h => rw [decide_of_registered ctx ht hm, h]; rfl

end Registry

end IntentSelect
