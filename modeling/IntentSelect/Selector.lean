import IntentSelect.Evaluation
import IntentSelect.Ranking

/-!
# Selection

A selector picks the experience that takes the place of an ordinary answer.  Candidates survive if
their fast-intent part is enabled and its expression holds; of the survivors the strongest by
ranking is selected.  A selector that is switched off selects nothing.
-/
namespace IntentSelect

structure Selector where
  registry : Registry
  enabled : Bool := true

namespace Selector

/-- The selector of a configuration, with matchers of the host. -/
def build (custom : List Matcher) (config : Config) : Traced Selector := do
  let registry ← Registry.build custom config
  return { registry, enabled := config.enabled }

/-- Evaluates an expression if there is one, also if the selector is switched off. -/
def holds (s : Selector) (ctx : Context) (e : Option Expression) : Traced Bool :=
  s.registry.holds ctx e

/-- True if a candidate survives. -/
def survives (s : Selector) (ctx : Context) (e : Experience) : Traced Bool :=
  match e.fastIntent with
  | some f =>
    if f.enabled then s.holds ctx f.expression
    else do
      Traced.log (.experienceSkipped e.id)
      return false
  | none => do
    Traced.log (.experienceSkipped e.id)
    return false

/-- The survivors among candidates, in the order in which they are given. -/
def survivors (s : Selector) (ctx : Context) : List Experience → Traced (List Experience)
  | [] => return []
  | e :: es => do
    let b ← s.survives ctx e
    let rest ← survivors s ctx es
    return if b then e :: rest else rest

/-- The candidates that match, none if the selector is switched off. -/
def matching (s : Selector) (ctx : Context) (candidates : List Experience) :
    Traced (List Experience) :=
  if s.enabled then s.survivors ctx candidates else return []

/-- Reports what has been selected. -/
def report : Option Experience → Traced Unit
  | none => pure ()
  | some e => Traced.log (.experienceFound e.id e.kind.name e.title)

/-- The strongest of the candidates that match. -/
def best? (s : Selector) (ctx : Context) (candidates : List Experience) :
    Traced (Option Experience) :=
  if s.enabled then do
    let found := Experience.strongest? (← s.matching ctx candidates)
    report found
    return found
  else do
    Traced.log .selectionDisabled
    return none

end Selector

end IntentSelect
