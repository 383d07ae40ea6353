import IntentSelect.Json.Reading
import IntentSelect.Text.Blank

/-!
# Contexts

A context holds what conditions are decided on in one turn: the input text, the conversation,
metadata of the configuration, the state of the host and the arguments of a pending tool call.  The
state is a look-up that the host provides; it may crash on some keys, and a crash is an answer like
any other here.
-/
namespace IntentSelect

open Json

/-- Something outside this library broke down, perhaps leaving a text behind. -/
structure Crash where
  text : Option String
deriving DecidableEq, Inhabited

namespace Crash

def message (c : Crash) : String := c.text.getD "unknown panic"

end Crash

/-! ## Messages -/

inductive Role where
  | system
  | user
  | assistant
  | tool
deriving DecidableEq, Repr, Inhabited

namespace Role

def name : Role → String
  | .system => "system"
  | .user => "user"
  | .assistant => "assistant"
  | .tool => "tool"

def reading : Reading Role :=
  .choice [("system", .system), ("user", .user), ("assistant", .assistant), ("tool", .tool)]

end Role

/-- One message of the conversation. -/
structure Message where
  role : Role
  content : String := ""
deriving DecidableEq, Repr, Inhabited

namespace Message

def reading : Reading Message :=
  .record "ChatMessage" [
    .mandatory "role" Role.reading fun r m => { m with role := r },
    .optional "content" .text fun s m => { m with content := s }] ⟨.system, ""⟩

/-- Decodes messages from a value. -/
def decodeList (v : Value) : Except Refusal (List Message) := (Reading.list reading).decode v

/-- Decodes messages from a text. -/
def parseList (text : String) : Except Refusal (List Message) := (Reading.list reading).parse text

end Message

/-! ## State -/

/-- What a look-up in the state gives. -/
inductive Answer where
  | absent
  | found (v : Value)
  | crashed (c : Crash)
deriving Inhabited

namespace Answer

def ofOption : Option Value → Answer
  | none => .absent
  | some v => .found v

end Answer

/-- The state of the host, by key. -/
structure State where
  lookup : String → Answer

namespace State

/-- The state that fields hold. -/
def ofFields (fields : List (String × Value)) : State :=
  ⟨fun key => .ofOption (Fields.get? key fields)⟩

end State

/-! ## Contexts -/

/-- The signals of one turn; metadata and arguments are in ascending order of their keys. -/
structure Context where
  input : Option String := none
  messages : List Message := []
  metadata : List (String × Value) := []
  state : Option State := none
  toolArgs : List (String × Value) := []
deriving Inhabited

namespace Context

/-- The keys under which a state holds the input and the conversation. -/
def inputKey : String := "input"
def messagesKey : String := "messages"

/-- The context of a state: its input, if that is a text, and those of its messages that can be
read.  A state that crashes on either key gives no context. -/
def ofState (state : State) (metadata : List (String × Value)) : Except Crash Context := do
  let input ← match state.lookup inputKey with
    | .found (.string s) => pure (some s)
    | .crashed c => throw c
    | _ => pure none
  let messages ← match state.lookup messagesKey with
    | .found (.array items) => pure (items.filterMap fun v => (Message.reading.ofValue v).toOption)
    | .crashed c => throw c
    | _ => pure []
  return { input, messages, metadata, state := some state }

def withMetadata (key : String) (v : Value) (c : Context) : Context :=
  { c with metadata := Fields.put key v c.metadata }

def withToolArg (key : String) (v : Value) (c : Context) : Context :=
  { c with toolArgs := Fields.put key v c.toolArgs }

def metadataValue (c : Context) (key : String) : Option Value := Fields.get? key c.metadata

def toolArg (c : Context) (key : String) : Option Value := Fields.get? key c.toolArgs

/-- The state is asked only for keys that are not blank. -/
def stateValue (c : Context) (key : String) : Answer :=
  if Text.hasText key then
    match c.state with
    | none => .absent
    | some s => s.lookup key
  else .absent

end Context

end IntentSelect
