import IntentSelect.Condition

/-!
# Match expressions

A match expression combines conditions with negation, conjunction and disjunction.  In documents it
is an object in which any of the four fields `anyOf`, `allOf`, `not` and `condition` may be filled
in; `ofParts` decides which of them counts: a negation before a conjunction before a disjunction
before a condition, and lists only if they are not empty.  An expression in which nothing counts is
`empty`, and `null` stands for it too.
-/
namespace IntentSelect

open Json

/-- A Boolean combination of conditions. -/
inductive Expression where
  | not (child : Expression)
  | allOf (children : List Expression)
  | anyOf (children : List Expression)
  | condition (c : Condition)
  | empty
deriving Inhabited

namespace Expression

/-! ## Equality is decidable -/

mutual
protected def decEq (a b : Expression) : Decidable (a = b) :=
  match a, b with
  | .not x, .not y =>
    match Expression.decEq x y with
    | isTrue h => isTrue (by rw [h])
    | isFalse h => isFalse fun e => h (Expression.not.inj e)
  | .allOf xs, .allOf ys =>
    match decEqList xs ys with
    | isTrue h => isTrue (by rw [h])
    | isFalse h => isFalse fun e => h (Expression.allOf.inj e)
  | .anyOf xs, .anyOf ys =>
    match decEqList xs ys with
    | isTrue h => isTrue (by rw [h])
    | isFalse h => isFalse fun e => h (Expression.anyOf.inj e)
  | .condition c, .condition d =>
    if h : c = d then isTrue (by rw [h]) else isFalse fun e => h (Expression.condition.inj e)
  | .empty, .empty => isTrue rfl
  | .not _, .allOf _ | .not _, .anyOf _ | .not _, .condition _ | .not _, .empty
  | .allOf _, .not _ | .allOf _, .anyOf _ | .allOf _, .condition _ | .allOf _, .empty
  | .anyOf _, .not _ | .anyOf _, .allOf _ | .anyOf _, .condition _ | .anyOf _, .empty
  | .condition _, .not _ | .condition _, .allOf _ | .condition _, .anyOf _ | .condition _, .empty
  | .empty, .not _ | .empty, .allOf _ | .empty, .anyOf _ | .empty, .condition _ => isFalse nofun
termination_by structural a

def decEqList (as bs : List Expression) : Decidable (as = bs) :=
  match as, bs with
  | [], [] => isTrue rfl
  | x :: xs, y :: ys =>
    match Expression.decEq x y, decEqList xs ys with
    | isTrue h, isTrue h' => isTrue (by rw [h, h'])
    | isFalse h, _ => isFalse fun e => h (List.cons.inj e).1
    | _, isFalse h => isFalse fun e => h (List.cons.inj e).2
  | [], _ :: _ | _ :: _, [] => isFalse nofun
termination_by structural as
end

instance : DecidableEq Expression := Expression.decEq

/-! ## Parts -/

/-- The fields of an expression as they are authored. -/
structure Parts where
  anyOf : List Expression := []
  allOf : List Expression := []
  not : Option Expression := none
  condition : Option Condition := none

/-- The expression that authored fields stand for. -/
def ofParts (p : Parts) : Expression :=
  match p with
  | { not := some child, .. } => .not child
  | { allOf := e :: es, .. } => .allOf (e :: es)
  | { anyOf := e :: es, .. } => .anyOf (e :: es)
  | { condition := some c, .. } => .condition c
  | _ => .empty

/-- The fields in which an expression is written. -/
def parts : Expression → Parts
  | .not child => { not := some child }
  | .allOf es => { allOf := es }
  | .anyOf es => { anyOf := es }
  | .condition c => { condition := some c }
  | .empty => {}

/-- True for the expression in which nothing counts. -/
def isEmpty : Expression → Bool
  | .empty => true
  | _ => false

/-! ## In documents -/

/-- The fields of an expression whose parts are read by `child`. -/
def slots (child : Reading Expression) : List (Slot Parts) := [
  .optional "anyOf" (.nullable (.list child)) fun es p => { p with anyOf := es.getD [] },
  .optional "allOf" (.nullable (.list child)) fun es p => { p with allOf := es.getD [] },
  .optional "not" (.nullable child) fun e p => { p with not := e },
  .optional "condition" (.nullable Condition.reading) fun c p => { p with condition := c }]

/-- How an expression is read whose parts are read by `child`. -/
def readingOver (child : Reading Expression) : Reading Expression :=
  (Reading.nullable (.record "RawMatchExpression" (slots child) {})).map fun p? =>
    match p? with
    | none => .empty
    | some p => ofParts p

/-- How an expression is read of which fewer than `levels` others lie around its innermost part. -/
def reading : (levels : Nat) → Reading Expression
  | 0 => ⟨fun _ => .error .tooDeep, fun _ cs => .error (.here .tooDeep cs)⟩
  | n + 1 => readingOver (reading n)

/-- Decodes an expression from a value. -/
def decode (v : Value) : Except Refusal Expression := (reading (v.depth + 1)).decode v

/-- Decodes an expression from a text. -/
def parse (text : String) : Except Refusal Expression := (reading (depthLimit + 1)).parse text

mutual
/-- How an expression is written. -/
def toJson (e : Expression) : Value :=
  match e with
  | .not child => .object [("not", child.toJson)]
  | .allOf [] => .object []
  | .allOf (e :: es) => .object [("allOf", .array (e.toJson :: listToJson es))]
  | .anyOf [] => .object []
  | .anyOf (e :: es) => .object [("anyOf", .array (e.toJson :: listToJson es))]
  | .condition c => .object [("condition", c.toJson)]
  | .empty => .object []
termination_by structural e

/-- How expressions are written. -/
def listToJson (es : List Expression) : List Value :=
  match es with
  | [] => []
  | e :: es => e.toJson :: listToJson es
termination_by structural es
end

end Expression

/-- Decodes a condition from a value. -/
def Condition.decode (v : Value) : Except Refusal Condition := Condition.reading.decode v

/-- Decodes a condition from a text. -/
def Condition.parse (text : String) : Except Refusal Condition := Condition.reading.parse text

end IntentSelect
