import IntentSelect.Expression
import IntentSelect.Registry

/-!
# Evaluation of match expressions

An expression is evaluated from left to right, and no further than needed: a conjunction ends at the
first part that is false, a disjunction at the first that is true.  Without parts both are false,
and so is the empty expression.  `Expression.evaluate` takes what decides a condition as a
parameter; `Registry.holds` evaluates with the matchers of a registry.
-/
namespace IntentSelect

namespace Expression

mutual
/-- Evaluates an expression whose conditions are decided by `decide`. -/
def evaluate (decide : Condition → Traced Bool) (e : Expression) : Traced Bool :=
  match e with
  | .not child => do
    let b ← child.evaluate decide
    return !b
  | .allOf es => if es.isEmpty then return false else allHold decide es
  | .anyOf es => if es.isEmpty then return false else anyHolds decide es
  | .condition c => decide c
  | .empty => return false
termination_by structural e

/-- Evaluates expressions up to the first that is false. -/
def allHold (decide : Condition → Traced Bool) (es : List Expression) : Traced Bool :=
  match es with
  | [] => return true
  | e :: es => do
    let b ← e.evaluate decide
    if b then allHold decide es else return false
termination_by structural es

/-- Evaluates expressions up to the first that is true. -/
def anyHolds (decide : Condition → Traced Bool) (es : List Expression) : Traced Bool :=
  match es with
  | [] => return false
  | e :: es => do
    let b ← e.evaluate decide
    if b then return true else anyHolds decide es
termination_by structural es
end

end Expression

namespace Registry

/-- Evaluates an expression in a context. -/
def evaluate (r : Registry) (ctx : Context) (e : Expression) : Traced Bool :=
  e.evaluate (r.decide ctx)

/-- Evaluates an expression if there is one; without one nothing matches. -/
def holds (r : Registry) (ctx : Context) (e : Option Expression) : Traced Bool :=
  match e with
  | none => return false
  | some e => r.evaluate ctx e

end Registry

end IntentSelect
