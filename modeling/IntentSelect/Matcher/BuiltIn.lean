import IntentSelect.Config
import IntentSelect.Matcher
import IntentSelect.Pattern.Search
import IntentSelect.Text.Lowercase

/-!
# The built-in matchers

Seven kinds of conditions are decided by the library itself.  Two look at the input text, and five
at a value that the condition's key names: in the metadata, in the state or among the arguments of a
tool call.  A condition whose required fields are missing or blank is false, and so is one about an
input that is missing or blank.
-/
namespace IntentSelect

open Json Text

/-- What stands in the field, if it is not blank. -/
def whenText (field : Option String) : Option String := field.filter hasText

theorem whenText_eq_some_iff {field : Option String} {s : String} :
    whenText field = some s ↔ field = some s ∧ hasText s = true := by
  rw [whenText, Option.filter_eq_some_iff]

/-- True if one text begins with another. -/
def beginsWith (text start : String) : Bool := start.toList.isPrefixOf text.toList

/-- True if there is a value whose text is the expected one, which must not be blank. -/
def isShownAs (found : Option Value) (expected : Option String) : Bool :=
  match whenText expected, found.bind Value.text? with
  | some e, some s => s == e
  | _, _ => false

namespace Condition

/-! ## About the input -/

/-- True if the input begins with the condition's value.  White space around the input does not
count if the condition trims; case counts unless the condition ignores it. -/
def prefixHolds (c : Condition) (ctx : Context) : Bool :=
  match whenText ctx.input, whenText c.value with
  | some input, some start =>
    let subject := if c.trims then Text.trim input else input
    if c.ignoresCase then beginsWith (lowercase subject) (lowercase start)
    else beginsWith subject start
  | _, _ => false

/-- Looks for the condition's pattern in the input. -/
def patternOutcome (limit : Nat) (c : Condition) (ctx : Context) : Outcome :=
  match whenText ctx.input, whenText c.pattern with
  | some input, some pattern =>
    match Pattern.compile limit pattern with
    | .ok r => .decided (r.foundIn input)
    | .error problem => .failed (.invalidPattern pattern problem.message)
  | _, _ => .decided false

/-! ## About named values -/

/-- True if the metadata have the condition's key, whatever is under it. -/
def metadataExists (c : Condition) (ctx : Context) : Bool :=
  match whenText c.key with
  | some key => (ctx.metadataValue key).isSome
  | none => false

/-- True if what the metadata have under the condition's key is shown as its value. -/
def metadataEquals (c : Condition) (ctx : Context) : Bool :=
  match whenText c.key with
  | some key => isShownAs (ctx.metadataValue key) c.value
  | none => false

/-- True if what the metadata have under the condition's key is shown as one of its values. -/
def metadataAmong (c : Condition) (ctx : Context) : Bool :=
  match whenText c.key with
  | some key =>
    match (ctx.metadataValue key).bind Value.text? with
    | some s => c.values.contains s
    | none => false
  | none => false

/-- Compares what the state has under the condition's key with its value. -/
def stateOutcome (c : Condition) (ctx : Context) : Outcome :=
  match whenText c.key with
  | some key =>
    match ctx.stateValue key with
    | .absent => .decided (isShownAs none c.value)
    | .found v => .decided (isShownAs (some v) c.value)
    | .crashed crash => .crashed crash
  | none => .decided false

/-- True if the tool argument under the condition's key is shown as its value. -/
def toolArgEquals (c : Condition) (ctx : Context) : Bool :=
  match whenText c.key with
  | some key => isShownAs (ctx.toolArg key) c.value
  | none => false

end Condition

/-- The matchers of the library, in the order in which they are registered. -/
def builtIns (config : Config) : List Matcher := [
  ⟨"message_prefix", fun c ctx => .decided (c.prefixHolds ctx)⟩,
  ⟨"message_regex", Condition.patternOutcome config.regexSizeLimit⟩,
  ⟨"metadata_exists", fun c ctx => .decided (c.metadataExists ctx)⟩,
  ⟨"metadata_equals", fun c ctx => .decided (c.metadataEquals ctx)⟩,
  ⟨"metadata_in", fun c ctx => .decided (c.metadataAmong ctx)⟩,
  ⟨"state_equals", Condition.stateOutcome⟩,
  ⟨"tool_arg_equals", fun c ctx => .decided (c.toolArgEquals ctx)⟩]

end IntentSelect
