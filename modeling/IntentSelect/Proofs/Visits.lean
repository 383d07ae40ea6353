import IntentSelect.Proofs.Decisions
import IntentSelect.Proofs.ExpressionTree

/-! # Which conditions an evaluation visits

An evaluation does not look at all conditions of an expression: a conjunction ends at
the first part that is false, a disjunction at the first that is true.  Whether a
place is reached can be said without following the evaluation (`Expression.Reached`):
of every conjunction above it all parts further to the left are true, of every
disjunction above it they are all false.

`Expression.visits` lists the conditions as the evaluation comes to them.  The list
holds each place that is reached once, from left to right (`mem_visits`, `pairwise_visits`),
and the trace of the evaluation is that of the decisions of the list (`trace_evaluate`).
-/
namespace IntentSelect

namespace Expression
variable {holds : Expression → Bool} {e : Expression} {es : List Expression} {c : Condition}
  {place : List Nat} {i : Nat} {go : Bool}

/-! ## Reached places -/

/-- Evaluation comes to the part with number `i`: the parts before it do not decide the
whole. -/
def Admits (holds : Expression → Bool) (i : Nat) : Expression → Prop
  | .allOf es => ∀ d ∈ es.take i, holds d = true
  | .anyOf es => ∀ d ∈ es.take i, holds d = false
  | .not _ | .condition _ | .empty => True

/-- Evaluation comes to a place: on the way to it every expression is evaluated as far as
the part that the way goes on in. -/
def Reached (holds : Expression → Bool) (e : Expression) (place : List Nat) : Prop :=
  ∀ above i below d, place = above ++ i :: below → e.at? above = some d → d.Admits holds i

theorem reached_nil : e.Reached holds [] := by
  intro above i below d h
  simp at h

theorem reached_cons_iff : e.Reached holds (i :: place) ↔
    e.Admits holds i ∧ ∀ x, e.children[i]? = some x → x.Reached holds place := by
  constructor
  · intro h
    refine ⟨h [] i place e rfl rfl, ?_⟩
    -- a way that starts in the part starts at the top with one more number
    rintro x hx above j below d rfl hd
    exact h (i :: above) j below d rfl (at?_cons_eq_some_iff.mpr ⟨x, hx, hd⟩)
  · rintro ⟨hadmits, hrest⟩ above j below d hplace hd
    cases above with
    | nil =>
      obtain ⟨rfl, rfl⟩ := List.cons.inj hplace
      cases hd
      exact hadmits
    | cons k above =>
      obtain ⟨rfl, rfl⟩ := List.cons.inj hplace
      obtain ⟨x, hx, hd⟩ := at?_cons_eq_some_iff.mp hd
      exact hrest x hx above j below d rfl hd

/-! ## Visits -/

/-- Visits in the part with number `i`, as visits in the whole. -/
def under (i : Nat) (visits : List (List Nat × Condition)) : List (List Nat × Condition) :=
  visits.map fun v => (i :: v.1, v.2)

mutual
/-- The conditions that are visited, with their places, if `holds` says what expressions
evaluate to. -/
def visits (holds : Expression → Bool) (e : Expression) : List (List Nat × Condition) :=
  match e with
  | .not child => under 0 (child.visits holds)
  | .allOf es => visitsWhile holds true 0 es
  | .anyOf es => visitsWhile holds false 0 es
  | .condition c => [([], c)]
  | .empty => []
termination_by structural e

/-- The visits in parts that are numbered from `i` on, up to the first part that does
not evaluate to `go`. -/
def visitsWhile (holds : Expression → Bool) (go : Bool) (i : Nat) (es : List Expression) :
    List (List Nat × Condition) :=
  match es with
  | [] => []
  | e :: es => under i (e.visits holds) ++
      if holds e = go then visitsWhile holds go (i + 1) es else []
termination_by structural es
end

theorem mem_under {vs : List (List Nat × Condition)} :
    (place, c) ∈ under i vs ↔ ∃ below, place = i :: below ∧ (below, c) ∈ vs := by
  simp only [under, List.mem_map, Prod.exists, Prod.mk.injEq]
  constructor
  · rintro ⟨below, d, hv, rfl, rfl⟩
    exact ⟨below, rfl, hv⟩
  · rintro ⟨below, rfl, hv⟩
    exact ⟨below, c, hv, rfl, rfl⟩

/-- Visited in several parts is what is visited in one of them, if all before it evaluate
to `go`. -/
theorem mem_visitsWhile : (place, c) ∈ visitsWhile holds go i es ↔
    ∃ k x below, place = (i + k) :: below ∧ es[k]? = some x ∧ (∀ d ∈ es.take k, holds d = go) ∧
      (below, c) ∈ x.visits holds := by
  -- the parts of the rest are numbered from `i + 1` on
  induction es generalizing i with
  | nil => simp [visitsWhile]
  | cons e es ih =>
    rw [visitsWhile, List.mem_append, mem_under]
    constructor
    · rintro (⟨below, hplace, hv⟩ | h)
      · exact ⟨0, e, below, hplace, rfl, by simp, hv⟩
      · split at h
        case isFalse => cases h
        case isTrue he =>
          obtain ⟨k, x, below, hplace, hx, hgo, hv⟩ := ih.mp h
          rw [Nat.succ_add_eq_add_succ] at hplace
          exact ⟨k + 1, x, below, hplace, hx, List.forall_mem_cons.mpr ⟨he, hgo⟩, hv⟩
    · rintro ⟨k, x, below, hplace, hx, hgo, hv⟩
      cases k with
      | zero =>
        cases hx
        exact .inl ⟨below, hplace, hv⟩
      | succ k =>
        obtain ⟨he, hgo⟩ := List.forall_mem_cons.mp hgo
        rw [← Nat.succ_add_eq_add_succ] at hplace
        rw [if_pos he]
        exact .inr (ih.mpr ⟨k, x, below, hplace, hx, hgo, hv⟩)

/-- What a place below the top has to do with the parts. -/
theorem exists_at?_reached_iff :
    (e.at? place = some (.condition c) ∧ e.Reached holds place) ↔
      (e = .condition c ∧ place = []) ∨ ∃ i x below, place = i :: below ∧ e.children[i]? = some x ∧
        e.Admits holds i ∧ x.at? below = some (.condition c) ∧ x.Reached holds below := by
  cases place with
  | nil => simp [at?_nil, reached_nil]
  | cons i below =>
    rw [at?_cons_eq_some_iff, reached_cons_iff]
    constructor
    · rintro ⟨⟨x, hx, h⟩, hadmits, hrest⟩
      exact .inr ⟨i, x, below, rfl, hx, hadmits, h, hrest x hx⟩
    · rintro (⟨-, h⟩ | ⟨j, x, below', hplace, hx, hadmits, h, hreached⟩)
      · cases h
      · obtain ⟨rfl, rfl⟩ := List.cons.inj hplace
        refine ⟨⟨x, hx, h⟩, hadmits, fun y hy => ?_⟩
        rw [hx] at hy
        exact Option.some.inj hy ▸ hreached

theorem mem_visitsWhile_zero (ih : ∀ x ∈ es, ∀ {place}, (place, c) ∈ x.visits holds ↔
      x.at? place = some (.condition c) ∧ x.Reached holds place) :
    (place, c) ∈ visitsWhile holds go 0 es ↔
      ∃ i x below, place = i :: below ∧ es[i]? = some x ∧ (∀ d ∈ es.take i, holds d = go) ∧
        x.at? below = some (.condition c) ∧ x.Reached holds below := by
  rw [mem_visitsWhile]
  refine exists_congr fun k => exists_congr fun x => exists_congr fun below => ?_
  rw [Nat.zero_add]
  refine and_congr_right fun _ => and_congr_right fun hx => and_congr_right fun _ => ?_
  exact ih x (List.mem_of_getElem? hx)

/-- Visited are the conditions at the places that are reached. -/
theorem mem_visits : (place, c) ∈ e.visits holds ↔
    e.at? place = some (.condition c) ∧ e.Reached holds place := by
  induction e generalizing place with
  | not child ih =>
    rw [exists_at?_reached_iff, visits, mem_under]
    constructor
    · rintro ⟨below, hplace, hv⟩
      exact .inr ⟨0, child, below, hplace, rfl, trivial, ih.mp hv⟩
    · rintro (⟨h, -⟩ | ⟨i, x, below, hplace, hx, -, h⟩)
      · cases h
      · cases i with
        | zero => cases hx; exact ⟨below, hplace, ih.mpr h⟩
        | succ i => cases hx
  | allOf es ih =>
    rw [exists_at?_reached_iff, visits, mem_visitsWhile_zero ih]
    exact (or_iff_right fun h => nomatch h.1).symm
  | anyOf es ih =>
    rw [exists_at?_reached_iff, visits, mem_visitsWhile_zero ih]
    exact (or_iff_right fun h => nomatch h.1).symm
  | condition d =>
    rw [exists_at?_reached_iff, visits]
    simp [children, and_comm, eq_comm]
  | empty =>
    rw [exists_at?_reached_iff, visits]
    simp [children]

/-- The second of two alternatives is not visited, since the first holds. -/
example (c d : Condition) :
    (allOf [.anyOf [.condition c, .condition d], .not (.condition d)]).visits (fun _ => true) =
      [([0, 0], c), ([1, 0], d)] :=
  rfl

/-! ## The order of the visits -/

theorem pairwise_under {vs : List (List Nat × Condition)}
    (h : (vs.map Prod.fst).Pairwise (· < ·)) : ((under i vs).map Prod.fst).Pairwise (· < ·) := by
  have hmap : (under i vs).map Prod.fst = (vs.map Prod.fst).map (i :: ·) := by
    simp [under]
  rw [hmap, List.pairwise_map]
  exact h.imp fun hlt => List.cons_lt_cons_iff.mpr (.inr ⟨rfl, hlt⟩)

theorem pairwise_visitsWhile
    (ih : ∀ x ∈ es, ((x.visits holds).map Prod.fst).Pairwise (· < ·)) :
    ((visitsWhile holds go i es).map Prod.fst).Pairwise (· < ·) := by
  induction es generalizing i with
  | nil => simp [visitsWhile]
  | cons e es ihes =>
    obtain ⟨he, hes⟩ := List.forall_mem_cons.mp ih
    rw [visitsWhile, List.map_append, List.pairwise_append]
    refine ⟨pairwise_under he, ?_, ?_⟩
    · split
      · exact ihes hes
      · exact List.Pairwise.nil
    · -- the places in the first part begin with `i`, those in the others with more
      rintro a ha b hb
      obtain ⟨⟨a, c⟩, hac, rfl⟩ := List.mem_map.mp ha
      obtain ⟨⟨b, d⟩, hbd, rfl⟩ := List.mem_map.mp hb
      split at hbd
      case isFalse => cases hbd
      case isTrue =>
        obtain ⟨below, rfl, -⟩ := mem_under.mp hac
        obtain ⟨k, x, below', rfl, -⟩ := mem_visitsWhile.mp hbd
        exact List.cons_lt_cons_iff.mpr (.inl (by omega))

/-- Every place is visited once, from left to right. -/
theorem pairwise_visits (holds : Expression → Bool) (e : Expression) :
    ((e.visits holds).map Prod.fst).Pairwise (· < ·) := by
  induction e with
  | not child ih => exact pairwise_under ih
  | allOf es ih => exact pairwise_visitsWhile ih
  | anyOf es ih => exact pairwise_visitsWhile ih
  | condition c => exact List.pairwise_singleton ..
  | empty => exact List.Pairwise.nil

/-! ## The trace of an evaluation -/

section Trace
variable {decide : Condition → Traced Bool}

/-- What deciding the conditions of visits does. -/
def steps (decide : Condition → Traced Bool) (vs : List (List Nat × Condition)) : List Step :=
  vs.flatMap fun v => (decide v.2).trace

theorem steps_append (vs ws : List (List Nat × Condition)) :
    steps decide (vs ++ ws) = steps decide vs ++ steps decide ws :=
  List.flatMap_append

theorem steps_under (i : Nat) (vs : List (List Nat × Condition)) :
    steps decide (under i vs) = steps decide vs :=
  List.flatMap_map ..

theorem trace_evaluateWhile
    (hholds : ∀ e, holds e = (e.evaluate decide).result)
    (ih : ∀ e ∈ es, (e.evaluate decide).trace = steps decide (e.visits holds)) :
    (evaluateWhile decide go es).trace = steps decide (visitsWhile holds go i es) := by
  induction es generalizing i with
  | nil => rfl
  | cons e es ihes =>
    obtain ⟨he, hes⟩ := List.forall_mem_cons.mp ih
    rw [evaluateWhile, visitsWhile, Traced.trace_bind, steps_append, steps_under, he, ← hholds]
    congr 1
    split
    · exact ihes hes
    · rfl

/-- An evaluation does what deciding the visited conditions does. -/
theorem trace_evaluate (decide : Condition → Traced Bool) (e : Expression) :
    (e.evaluate decide).trace =
      steps decide (e.visits fun d => (d.evaluate decide).result) := by
  induction e with
  | not child ih =>
    rw [evaluate, visits, steps_under, ← ih]
    simp
  | allOf es ih =>
    rw [evaluate_allOf, visits, ← trace_evaluateWhile (fun _ => rfl) ih]
    -- without parts the answer is another one, but the trace is empty all the same
    cases es <;> rfl
  | anyOf es ih =>
    rw [evaluate_anyOf, visits, ← trace_evaluateWhile (fun _ => rfl) ih]
    cases es <;> rfl
  | condition c => simp [evaluate, visits, steps]
  | empty => rfl

end Trace

end Expression

/-! ## Evaluation with a registry -/

namespace Registry

/-- **What an evaluation does.**  It decides the conditions at the places that are
reached, each once and from left to right, and does nothing else.  Of a blank kind
it does nothing, of an unknown one it gives one warning, and otherwise it calls
the matcher once, with one warning after it exactly if the matcher gives no answer. -/
theorem evaluate_visits (r : Registry) (ctx : Context) (e : Expression) :
    let holds := fun d => (r.evaluate ctx d).result
    ((e.visits holds).map Prod.fst).Pairwise (· < ·) ∧
    (∀ place c, (place, c) ∈ e.visits holds ↔
      e.at? place = some (.condition c) ∧ e.Reached holds place) ∧
    (r.evaluate ctx e).trace = (e.visits holds).flatMap (fun v => (r.decide ctx v.2).trace) ∧
    ∀ c,
      (Text.hasText c.kind = false → (r.decide ctx c).trace = []) ∧
      (Text.hasText c.kind = true → r.get? c.kind = none →
        ∃ w, w.level = .warn ∧ (r.decide ctx c).trace = [.log w]) ∧
      ∀ m, Text.hasText c.kind = true → r.get? c.kind = some m →
        (∃ b, m.run c ctx = .decided b ∧ (r.decide ctx c).trace = [.call c.kind c]) ∨
        ((∀ b, m.run c ctx ≠ .decided b) ∧
          ∃ w, w.level = .warn ∧ (r.decide ctx c).trace = [.call c.kind c, .log w]) := by
  refine ⟨Expression.pairwise_visits _ e, fun place c => Expression.mem_visits,
    Expression.trace_evaluate _ e, fun c => ⟨fun ht => ?_, fun ht hm => ?_, fun m ht hm => ?_⟩⟩
  · rw [decide_of_blank r ctx ht]
  · exact ⟨.unknownKind c.kind, rfl, by rw [decide_of_unknown ctx ht hm]⟩
  · rw [decide_of_registered ctx ht hm]
    cases m.run c ctx with
    | decided b => exact .inl ⟨b, rfl, rfl⟩
    | failed e => exact .inr ⟨nofun, .matcherFailed c.kind e, rfl, rfl⟩
    | crashed crash => exact .inr ⟨nofun, .matcherCrashed c.kind crash.message, rfl, rfl⟩

end Registry

end IntentSelect
