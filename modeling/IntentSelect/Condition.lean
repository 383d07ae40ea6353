import IntentSelect.Json.Reading
import IntentSelect.Json.Writer

/-!
# Conditions

A condition is one atomic test.  Its `kind` names the matcher that decides it; the other fields are
that matcher's to interpret.  Authored values may be anything in a document, but a condition keeps
only their text: `value` is the text of the given value, `values` the texts of the given values,
those without a text left out.
-/
namespace IntentSelect

open Json

/-- One atomic test. -/
structure Condition where
  kind : String := ""
  key : Option String := none
  value : Option String := none
  values : List String := []
  pattern : Option String := none
  ignoreCase : Option Bool := none
  trim : Option Bool := none
deriving DecidableEq, Inhabited

namespace Condition

/-- A condition of a kind with nothing else set. -/
def ofKind (kind : String) : Condition := { kind := kind }

/-- Case is ignored only if the condition says so. -/
def ignoresCase (c : Condition) : Bool := c.ignoreCase.getD false

/-- White space is trimmed only if the condition says so. -/
def trims (c : Condition) : Bool := c.trim.getD false

/-! ## In documents -/

def slots : List (Slot Condition) := [
  .optional "type" .text fun s c => { c with kind := s },
  .optional "key" (.nullable .text) fun s c => { c with key := s },
  .optional "value" (.nullable .any) fun v c => { c with value := v.bind Value.text? },
  .optional "values" (.nullable (.list .any)) fun vs c =>
    { c with values := (vs.getD []).filterMap Value.text? },
  .optional "pattern" (.nullable .text) fun s c => { c with pattern := s },
  .optional "ignoreCase" (.nullable .flag) fun b c => { c with ignoreCase := b },
  .optional "trim" (.nullable .flag) fun b c => { c with trim := b }]

/-- How a condition is read. -/
def reading : Reading Condition := .record "Condition" slots {}

/-- How a condition is written. -/
def toJson (c : Condition) : Value :=
  .object (always "type" (.string c.kind) ++
    whenSome "key" .string c.key ++
    whenSome "value" .string c.value ++
    whenNonempty "values" .string c.values ++
    whenSome "pattern" .string c.pattern ++
    whenSome "ignoreCase" .bool c.ignoreCase ++
    whenSome "trim" .bool c.trim)

end Condition

end IntentSelect
