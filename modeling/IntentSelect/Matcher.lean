import IntentSelect.Condition
import IntentSelect.Context
import IntentSelect.Error

/-!
# Matchers

A matcher decides the conditions of one kind.  Matchers of the host are code that this library knows
nothing about, so deciding has three outcomes: an answer, an error, or a crash.
-/
namespace IntentSelect

/-- What comes of deciding a condition. -/
inductive Outcome where
  | decided (b : Bool)
  | failed (e : Error)
  | crashed (c : Crash)
deriving DecidableEq, Inhabited

/-- A way to decide the conditions of one kind. -/
structure Matcher where
  kind : String
  run : Condition → Context → Outcome

namespace Outcome

/-- The answer, which is no if there is none. -/
def isTrue : Outcome → Bool
  | .decided b => b
  | _ => false

@[simp] theorem isTrue_decided (b : Bool) : (decided b).isTrue = b := rfl

@[simp] theorem isTrue_failed (e : Error) : (failed e).isTrue = false := rfl

@[simp] theorem isTrue_crashed (c : Crash) : (crashed c).isTrue = false := rfl

end Outcome

end IntentSelect
