import IntentSelect.Proofs.Decisions
import IntentSelect.Proofs.ExpressionTree
import Mathlib.Algebra.Ring.Parity

/-! # Conditions under negations

What a condition does to an expression depends on the negations above it: under an even number of
them a condition that comes to be true can make the whole true but never false, under an odd number
it is the other way round.  So of two evaluations the second is true if the first one is and no
condition has changed to the disadvantage of the whole (`Favours`, `Favours.result`).

A negation swaps the two evaluations and moves every condition to the other parity; a list, with or
without parts, leaves both alone.  Which conditions the two evaluations come to does not matter,
since a list is judged by the results of its parts (`result_allOf_iff`, `result_anyOf_iff`), also of
those that the evaluation does not come to.
-/
namespace IntentSelect

namespace Expression
variable {decide decide' : Condition → Traced Bool} {e x child : Expression}
  {es : List Expression} {place : List Nat} {i : Nat} {first second : Condition → Bool}

/-! ## The results of lists -/

theorem result_evaluateWhile_iff {go : Bool} :
    (evaluateWhile decide go es).result = go ↔ ∀ e ∈ es, (e.evaluate decide).result = go := by
  induction es with
  | nil => simp [evaluateWhile]
  | cons e es ih =>
    rw [evaluateWhile, Traced.result_bind, List.forall_mem_cons]
    by_cases he : (e.evaluate decide).result = go
    · rw [if_pos he, ih, and_iff_right he]
    · rw [if_neg he, Traced.result_pure]
      refine iff_of_false ?_ fun h => he h.1
      cases go <;> decide

theorem result_allOf_iff : ((allOf es).evaluate decide).result = true ↔
    es ≠ [] ∧ ∀ e ∈ es, (e.evaluate decide).result = true := by
  rw [evaluate_allOf]
  by_cases hes : es = []
  · simp [hes]
  · rw [if_neg (by simpa using hes), result_evaluateWhile_iff, and_iff_right hes]

theorem result_anyOf_iff : ((anyOf es).evaluate decide).result = true ↔
    ∃ e ∈ es, (e.evaluate decide).result = true := by
  rw [evaluate_anyOf]
  by_cases hes : es = []
  · simp [hes]
  · -- a disjunction is false if the loop has gone to its end
    rw [if_neg (by simpa using hes), ← Bool.not_eq_false, result_evaluateWhile_iff]
    simp

theorem result_not_iff : ((Expression.not child).evaluate decide).result = true ↔
    ¬ (child.evaluate decide).result = true := by
  simp [evaluate]

/-! ## Negations -/

def isNegation : Expression → Bool
  | .not _ => true
  | _ => false

/-- How many negations there are on the way to a place. -/
def negationsAbove : Expression → List Nat → Nat
  | _, [] => 0
  | e, i :: place =>
    (if e.isNegation then 1 else 0) +
      match e.children[i]? with
      | some x => x.negationsAbove place
      | none => 0

theorem negationsAbove_cons (hx : e.children[i]? = some x) (place : List Nat) :
    e.negationsAbove (i :: place) =
      (if e.isNegation then 1 else 0) + x.negationsAbove place := by
  rw [negationsAbove, hx]

/-- Without negations there are none above any place. -/
theorem negationsAbove_eq_zero (h : ∀ place child, e.at? place ≠ some (.not child))
    (place : List Nat) : e.negationsAbove place = 0 := by
  induction place generalizing e with
  | nil => rfl
  | cons i place ih =>
    have htop : e.isNegation = false := by
      cases e with
      | not child => exact absurd rfl (h [] child)
      | _ => rfl
    cases hx : e.children[i]? with
    | none => simp [negationsAbove, hx, htop]
    | some x =>
      have hpart : ∀ place child, x.at? place ≠ some (.not child) := by
        intro place child hat
        exact h (i :: place) child (at?_cons_eq_some_iff.mpr ⟨x, hx, hat⟩)
      rw [negationsAbove_cons hx, ih hpart, htop]
      rfl

/-! ## Changes in favour of an expression -/

/-- Every condition under an even number of negations that is true at first is true afterwards, and
every one under an odd number that is true afterwards is true at first. -/
structure Favours (first second : Condition → Bool) (e : Expression) : Prop where
  even : ∀ place c, e.at? place = some (.condition c) → Even (e.negationsAbove place) →
    first c = true → second c = true
  odd : ∀ place c, e.at? place = some (.condition c) → Odd (e.negationsAbove place) →
    second c = true → first c = true

namespace Favours

/-- What is in favour of a negation is to the disadvantage of what it negates. -/
theorem of_not (h : (Expression.not child).Favours first second) :
    child.Favours second first := by
  have hchild : (Expression.not child).children[0]? = some child := rfl
  have habove (place : List Nat) : (Expression.not child).negationsAbove (0 :: place) =
      child.negationsAbove place + 1 := by
    rw [negationsAbove_cons hchild, Nat.add_comm]
    rfl
  refine ⟨fun place c hat heven => ?_, fun place c hat hodd => ?_⟩
  · refine h.odd (0 :: place) c (at?_cons_eq_some_iff.mpr ⟨child, hchild, hat⟩) ?_
    rw [habove]
    exact heven.add_one
  · refine h.even (0 :: place) c (at?_cons_eq_some_iff.mpr ⟨child, hchild, hat⟩) ?_
    rw [habove]
    exact hodd.add_one

/-- What is in favour of a list is in favour of its parts. -/
theorem of_part (h : e.Favours first second) (he : e.isNegation = false) (hx : x ∈ e.children) :
    x.Favours first second := by
  obtain ⟨i, hi⟩ := List.mem_iff_getElem?.mp hx
  have habove (place : List Nat) : e.negationsAbove (i :: place) = x.negationsAbove place := by
    rw [negationsAbove_cons hi, he, if_neg Bool.false_ne_true, Nat.zero_add]
  refine ⟨fun place c hat heven => ?_, fun place c hat hodd => ?_⟩
  · refine h.even (i :: place) c (at?_cons_eq_some_iff.mpr ⟨x, hi, hat⟩) ?_
    rwa [habove]
  · refine h.odd (i :: place) c (at?_cons_eq_some_iff.mpr ⟨x, hi, hat⟩) ?_
    rwa [habove]

/-- An expression that is true stays true if all changes are in its favour. -/
theorem result (h : e.Favours (fun c => (decide c).result) (fun c => (decide' c).result))
    (htrue : (e.evaluate decide).result = true) : (e.evaluate decide').result = true := by
  -- under a negation the two evaluations change places
  induction e generalizing decide decide' with
  | not child ih =>
    rw [result_not_iff] at htrue ⊢
    intro hchild
    exact htrue (ih h.of_not hchild)
  | allOf es ih =>
    obtain ⟨hne, hall⟩ := result_allOf_iff.mp htrue
    refine result_allOf_iff.mpr ⟨hne, fun x hx => ?_⟩
    exact ih x hx (h.of_part rfl hx) (hall x hx)
  | anyOf es ih =>
    obtain ⟨x, hx, hholds⟩ := result_anyOf_iff.mp htrue
    exact result_anyOf_iff.mpr ⟨x, hx, ih x hx (h.of_part rfl hx) hholds⟩
  | condition c => exact h.even [] c rfl Even.zero htrue
  | empty => cases htrue

end Favours

end Expression

namespace Registry

open Expression

/-- **Evaluation is monotone by polarity.**  Take two runs, with any registries and in any contexts.
If every condition under an even number of negations that is true in the first run is true in the
second, and every one under an odd number that is true in the second is true in the first, then an
expression that is true in the first run is true in the second.

So an expression without negations that is false in the first run is false in the second, if there
all its conditions are decided as before, fail or are false. -/
theorem evaluate_monotone (r r' : Registry) (ctx ctx' : Context) (e : Expression) :
    (e.Favours (fun c => (r.decide ctx c).result) (fun c => (r'.decide ctx' c).result) →
      (r.evaluate ctx e).result = true → (r'.evaluate ctx' e).result = true) ∧
    ((∀ place child, e.at? place ≠ some (.not child)) →
      (∀ c ∈ e.conditions, (r'.decide ctx' c).result = (r.decide ctx c).result ∨
        r'.Fails ctx' c ∨ (r'.decide ctx' c).result = false) →
      (r.evaluate ctx e).result = false → (r'.evaluate ctx' e).result = false) := by
  refine ⟨Favours.result, fun hpositive hworse hfalse => ?_⟩
  -- what is true of the conditions in the second run has been true of them in the first
  have hbefore : ∀ c ∈ e.conditions, (r'.decide ctx' c).result = true →
      (r.decide ctx c).result = true := by
    intro c hc htrue
    rcases hworse c hc with hsame | hfails | hno
    · exact hsame ▸ htrue
    · rw [hfails.result_decide] at htrue
      cases htrue
    · rw [hno] at htrue
      cases htrue
  have hfavours : e.Favours (fun c => (r'.decide ctx' c).result)
      (fun c => (r.decide ctx c).result) := by
    refine ⟨fun place c hat _ => hbefore c (mem_conditions_iff.mpr ⟨place, hat⟩), ?_⟩
    intro place c _ hodd
    rw [negationsAbove_eq_zero hpositive] at hodd
    exact absurd hodd Nat.not_odd_zero
  rw [← Bool.not_eq_true] at hfalse ⊢
  exact fun htrue => hfalse (hfavours.result htrue)

namespace Muted

def greeted : Condition := { kind := "message_prefix", value := some "h" }

def muted : Condition := { kind := "metadata_equals", key := some "muted", value := some "yes" }

/-- Someone greets, or the conversation is not muted. -/
def whole : Expression := .anyOf [.condition greeted, .not (.condition muted)]

/-- Someone greets, or the conversation is muted. -/
def positive : Expression := .anyOf [.condition muted, .condition greeted]

def before : Context := { input := some "hi", metadata := [("muted", .string "yes")] }

def after : Context := { input := some "hello", metadata := [("muted", .string "no")] }

def nothing : Context := {}

/-- A matcher for greetings that breaks down. -/
def broken : Matcher := { kind := "message_prefix", run := fun _ _ => .crashed ⟨none⟩ }

theorem place_of_at?_whole {place : List Nat} {c : Condition}
    (h : whole.at? place = some (.condition c)) :
    place = [0] ∧ c = greeted ∨ place = [1, 0] ∧ c = muted := by
  match place with
  | [] => cases h
  | [0] => cases h; exact .inl ⟨rfl, rfl⟩
  | 0 :: _ :: _ => cases h
  | [1] => cases h
  | [1, 0] => cases h; exact .inr ⟨rfl, rfl⟩
  | 1 :: 0 :: _ :: _ => cases h
  | 1 :: (_ + 1) :: _ => cases h
  | (_ + 2) :: _ => cases h

end Muted

open Muted in
/-- That the conversation is muted no longer holds, and the greeting still does, which is in favour
of the first expression.  If the matcher for greetings breaks down, the second one stays false. -/
theorem evaluate_monotone_muted :
    whole.Favours (fun c => ((build [] {}).result.decide before c).result)
      (fun c => ((build [] {}).result.decide after c).result) ∧
    ((build [] {}).result.decide before muted).result = true ∧
    ((build [] {}).result.decide after muted).result = false ∧
    ((build [] {}).result.evaluate after whole).result = true ∧
    (build [broken] {}).result.Fails after greeted ∧
    ((build [broken] {}).result.evaluate after positive).result = false := by
  have hfavours : whole.Favours (fun c => ((build [] {}).result.decide before c).result)
      (fun c => ((build [] {}).result.decide after c).result) := by
    refine ⟨fun place c hat heven _ => ?_, fun place c hat hodd _ => ?_⟩
    · obtain ⟨rfl, rfl⟩ | ⟨rfl, rfl⟩ := place_of_at?_whole hat
      · rfl
      · exact absurd heven (by decide)
    · obtain ⟨rfl, rfl⟩ | ⟨rfl, rfl⟩ := place_of_at?_whole hat
      · exact absurd hodd (by decide)
      · rfl
  have hfails : (build [broken] {}).result.Fails after greeted :=
    .crashed broken ⟨none⟩ (by rfl) rfl
  refine ⟨hfavours, by rfl, by rfl, ?_, hfails, ?_⟩
  · exact (evaluate_monotone _ _ before after whole).1 hfavours (by rfl)
  · refine (evaluate_monotone (build [] {}).result _ nothing after positive).2 ?_ ?_ (by rfl)
    · intro place child hat
      match place with
      | [] | [0] | [1] => cases hat
      | 0 :: _ :: _ | 1 :: _ :: _ | (_ + 2) :: _ => cases hat
    · intro c hc
      obtain rfl | rfl : c = muted ∨ c = greeted := by
        simpa [positive, conditions, allConditions] using hc
      · exact .inr (.inr (by rfl))
      · exact .inr (.inl hfails)

end Registry

end IntentSelect
