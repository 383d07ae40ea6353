import IntentSelect.Matcher.BuiltIn
import IntentSelect.Trace

/-!
# Registries

A registry has at most one matcher for each kind of condition.  The matchers of the host come first,
and of several for one kind the last one stays; built-in matchers take the kinds that are still
free. Deciding a condition always gives an answer: what cannot be decided is false, and is reported.
-/
namespace IntentSelect

open Json Text

/-- The matchers by kind, in ascending order of kinds. -/
structure Registry where
  matchers : List (String × Matcher)

namespace Registry

def empty : Registry := ⟨[]⟩

/-- The matcher for a kind. -/
def get? (r : Registry) (kind : String) : Option Matcher := Fields.get? kind r.matchers

def contains (r : Registry) (kind : String) : Bool := (r.get? kind).isSome

/-- The kinds that have a matcher, in ascending order. -/
def kinds (r : Registry) : List String := r.matchers.map Prod.fst

def size (r : Registry) : Nat := r.matchers.length

def isEmpty (r : Registry) : Bool := r.matchers.isEmpty

/-- Registers a matcher for its kind. -/
def put (m : Matcher) (r : Registry) : Registry := ⟨Fields.put m.kind m r.matchers⟩

theorem get?_put (m : Matcher) (r : Registry) (kind : String) :
    (r.put m).get? kind = if m.kind = kind then some m else r.get? kind :=
  Fields.get?_put m.kind kind m r.matchers

/-! ## Building -/

/-- Registers a matcher of the host. -/
def putCustom (r : Registry) (m : Matcher) : Traced Registry :=
  if hasText m.kind then do
    if r.contains m.kind then Traced.log (.matcherReplaced m.kind)
    return r.put m
  else do
    Traced.log .blankKindIgnored
    return r

/-- Registers a built-in matcher if its kind is free. -/
def putBuiltIn (r : Registry) (m : Matcher) : Traced Registry :=
  if r.contains m.kind then do
    Traced.log (.builtInOverridden m.kind)
    return r
  else return r.put m

/-- The registry of the host's matchers and the built-in ones. -/
def build (custom : List Matcher) (config : Config) : Traced Registry := do
  let r ← custom.foldlM putCustom empty
  (builtIns config).foldlM putBuiltIn r

/-! ## Deciding conditions -/

/-- What is reported of an outcome. -/
def report (kind : String) : Outcome → Traced Unit
  | .decided _ => pure ()
  | .failed e => Traced.log (.matcherFailed kind e)
  | .crashed crash => Traced.log (.matcherCrashed kind crash.message)

/-- Decides a condition. -/
def decide (r : Registry) (ctx : Context) (c : Condition) : Traced Bool :=
  if hasText c.kind then
    match r.get? c.kind with
    | none => do
      Traced.log (.unknownKind c.kind)
      return false
    | some m => do
      Traced.step (.call c.kind c)
      let outcome := m.run c ctx
      report c.kind outcome
      return outcome.isTrue
  else return false

end Registry

end IntentSelect
