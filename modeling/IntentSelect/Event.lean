import IntentSelect.Error

/-!
# Events

What the library reports while it works.  An event is one of a few facts; its level, its text and
its named fields are functions of the fact.
-/
namespace IntentSelect

inductive Level where
  | debug
  | info
  | warn
deriving DecidableEq, Repr

namespace Level

def name : Level → String
  | .debug => "DEBUG"
  | .info => "INFO"
  | .warn => "WARN"

end Level

/-- The value of a field of an event. -/
inductive FieldValue where
  | text (s : String)
  | count (n : Nat)
deriving DecidableEq

inductive Event where
  /-- A matcher of the host has a blank kind and is not registered. -/
  | blankKindIgnored
  /-- A matcher of the host takes the place of one that the host gave before. -/
  | matcherReplaced (kind : String)
  /-- A matcher of the host takes the place of a built-in one. -/
  | builtInOverridden (kind : String)
  | unknownKind (kind : String)
  | matcherFailed (kind : String) (error : Error)
  | matcherCrashed (kind message : String)
  | experienceSkipped (id : String)
  | selectionDisabled
  | experienceFound (id kind title : String)
  | fileLoaded (path : String) (count : Nat)
  | directoryLoaded (path : String) (files count : Nat)
deriving DecidableEq

namespace Event

def level : Event → Level
  | .blankKindIgnored | .unknownKind _ | .matcherFailed .. | .matcherCrashed .. => .warn
  | .experienceFound .. => .info
  | _ => .debug

def message : Event → String
  | .blankKindIgnored => "ignoring custom matcher with blank condition type"
  | .matcherReplaced _ => "custom matcher replaced an earlier registration"
  | .builtInOverridden _ => "built-in matcher overridden by custom matcher"
  | .unknownKind _ => "unknown condition type"
  | .matcherFailed .. => "condition matcher failed"
  | .matcherCrashed .. => "condition matcher panicked"
  | .experienceSkipped _ => "skipping experience without enabled fast-intent config"
  | .selectionDisabled => "fast-intent selection disabled by configuration"
  | .experienceFound .. => "found matched fast-intent experience"
  | .fileLoaded .. => "loaded experiences"
  | .directoryLoaded .. => "loaded experience directory"

def fields : Event → List (String × FieldValue)
  | .blankKindIgnored | .selectionDisabled => []
  | .matcherReplaced kind | .builtInOverridden kind | .unknownKind kind =>
    [("condition_type", .text kind)]
  | .matcherFailed kind e =>
    [("condition_type", .text kind), ("code", .text e.code), ("error", .text e.message)]
  | .matcherCrashed kind message => [("condition_type", .text kind), ("error", .text message)]
  | .experienceSkipped id => [("id", .text id)]
  | .experienceFound id kind title =>
    [("id", .text id), ("kind", .text kind), ("title", .text title)]
  | .fileLoaded path count => [("path", .text path), ("count", .count count)]
  | .directoryLoaded path files count =>
    [("path", .text path), ("files", .count files), ("count", .count count)]

end Event

end IntentSelect
