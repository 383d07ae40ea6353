import IntentSelect.Evaluation

/-! # Expressions as trees

An expression has parts, which are expressions again.  A place is given by the way to
it from the top: at each level the number of the part to go to, counted from 0.  Places
are compared as lists of numbers, so of two that stand side by side the one further
to the left is the smaller.

`Expression.induct` is the induction that everything about expressions uses: what
holds of an expression as soon as it holds of its parts holds of all.  Conjunctions and
disjunctions are evaluated alike, up to the first part with the wrong answer
(`evaluateWhile`), so nothing has to be proved for both.
-/
namespace IntentSelect.Expression
variable {e d : Expression} {es : List Expression} {c : Condition} {place : List Nat} {i : Nat}

/-- What holds of an expression as soon as it holds of its parts holds of all
expressions. -/
@[elab_as_elim, induction_eliminator]
theorem induct {P : Expression → Prop} (not : ∀ child, P child → P (.not child))
    (allOf : ∀ es, (∀ e ∈ es, P e) → P (.allOf es))
    (anyOf : ∀ es, (∀ e ∈ es, P e) → P (.anyOf es))
    (condition : ∀ c, P (.condition c)) (empty : P .empty) (e : Expression) : P e :=
  @Expression.rec P (fun es => ∀ e ∈ es, P e) not allOf anyOf condition empty
    (fun _ h => (List.not_mem_nil h).elim) (fun _ _ he hes => List.forall_mem_cons.mpr ⟨he, hes⟩) e

/-! ## Places -/

/-- The parts of an expression, from left to right. -/
def children : Expression → List Expression
  | .not child => [child]
  | .allOf es | .anyOf es => es
  | .condition _ | .empty => []

/-- What stands at a place. -/
def at? : Expression → List Nat → Option Expression
  | e, [] => some e
  | e, i :: place => (e.children[i]?).bind (·.at? place)

theorem at?_nil (e : Expression) : e.at? [] = some e := rfl

theorem at?_cons_eq_some_iff :
    e.at? (i :: place) = some d ↔ ∃ x, e.children[i]? = some x ∧ x.at? place = some d :=
  Option.bind_eq_some_iff

/-- What stands somewhere in an expression is the whole or stands somewhere in a part. -/
theorem exists_at?_iff : (∃ place, e.at? place = some d) ↔
    e = d ∨ ∃ x ∈ e.children, ∃ place, x.at? place = some d := by
  constructor
  · rintro ⟨place, h⟩
    cases place with
    | nil => exact .inl (Option.some.inj h)
    | cons i place =>
      obtain ⟨x, hx, h⟩ := at?_cons_eq_some_iff.mp h
      exact .inr ⟨x, List.mem_of_getElem? hx, place, h⟩
  · rintro (rfl | ⟨x, hx, place, h⟩)
    · exact ⟨[], rfl⟩
    · obtain ⟨i, hi⟩ := List.mem_iff_getElem?.mp hx
      exact ⟨i :: place, at?_cons_eq_some_iff.mpr ⟨x, hi, h⟩⟩

/-! ## Conditions -/

mutual
/-- The conditions in an expression, from left to right. -/
def conditions (e : Expression) : List Condition :=
  match e with
  | .not child => child.conditions
  | .allOf es | .anyOf es => allConditions es
  | .condition c => [c]
  | .empty => []
termination_by structural e

/-- The conditions in several expressions. -/
def allConditions (es : List Expression) : List Condition :=
  match es with
  | [] => []
  | e :: es => e.conditions ++ allConditions es
termination_by structural es
end

theorem mem_allConditions : c ∈ allConditions es ↔ ∃ e ∈ es, c ∈ e.conditions := by
  induction es with
  | nil => simp [allConditions]
  | cons e es ih => simp [allConditions, ih]

/-- The conditions of an expression are those that stand at its places. -/
theorem mem_conditions_iff : c ∈ e.conditions ↔ ∃ place, e.at? place = some (.condition c) := by
  induction e with
  | not child ih =>
    rw [exists_at?_iff, conditions, ih]
    simp [children]
  | allOf es ih =>
    rw [exists_at?_iff, conditions, mem_allConditions]
    simpa [children] using exists_congr fun x => and_congr_right (ih x)
  | anyOf es ih =>
    rw [exists_at?_iff, conditions, mem_allConditions]
    simpa [children] using exists_congr fun x => and_congr_right (ih x)
  | condition d =>
    rw [exists_at?_iff]
    simp [conditions, children, eq_comm]
  | empty =>
    rw [exists_at?_iff]
    simp [conditions, children]

/-! ## Evaluating several expressions -/

/-- Evaluates expressions up to the first that does not evaluate to `go`.  If there is
none, the answer is `go`. -/
def evaluateWhile (decide : Condition → Traced Bool) (go : Bool) :
    List Expression → Traced Bool
  | [] => return go
  | e :: es => do
    let b ← e.evaluate decide
    if b = go then evaluateWhile decide go es else return !go

variable {decide : Condition → Traced Bool}

theorem allHold_eq (es : List Expression) :
    allHold decide es = evaluateWhile decide true es := by
  induction es with
  | nil => rfl
  | cons e es ih => rw [allHold, evaluateWhile, ih]; rfl

theorem anyHolds_eq (es : List Expression) :
    anyHolds decide es = evaluateWhile decide false es := by
  induction es with
  | nil => rfl
  | cons e es ih =>
    rw [anyHolds, evaluateWhile, ih]
    refine bind_congr fun b => ?_
    cases b <;> rfl

/-- A conjunction goes on as long as its parts are true. -/
theorem evaluate_allOf (es : List Expression) : (allOf es).evaluate decide =
    if es.isEmpty then pure false else evaluateWhile decide true es := by
  rw [evaluate, allHold_eq]

/-- A disjunction goes on as long as its parts are false. -/
theorem evaluate_anyOf (es : List Expression) : (anyOf es).evaluate decide =
    if es.isEmpty then pure false else evaluateWhile decide false es := by
  rw [evaluate, anyHolds_eq]

end IntentSelect.Expression
