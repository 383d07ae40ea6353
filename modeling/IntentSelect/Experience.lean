import IntentSelect.Expression
import IntentSelect.Timestamp.Reader

/-!
# Experiences

An experience is an authored answer or plan.  Its fast-intent part says whether, when and with which
priority it takes the place of an ordinary answer; its artifact says what is then carried out, and
means nothing to matching.  Every field may be left out of a document, except the name of a tool in
a plan.
-/
namespace IntentSelect

open Json

/-- How the artifact of an experience is carried out. -/
inductive ExperienceKind where
  | code
  | react
  | common
deriving DecidableEq, Repr, Inhabited

/-- What is done once an experience has been selected. -/
inductive Mode where
  | fastPath
  | fastPathThenReference
deriving DecidableEq, Repr, Inhabited

/-- What is done if that fails. -/
inductive Fallback where
  | referenceOnly
  | failFast
deriving DecidableEq, Repr, Inhabited

structure OnMatch where
  mode : Mode := .fastPath
  fallback : Fallback := .referenceOnly
deriving DecidableEq, Repr, Inhabited

/-- When an experience takes the place of an ordinary answer. -/
structure FastIntent where
  enabled : Bool := false
  /-- Of several that match, the highest counts. -/
  priority : Int32 := 0
  /-- Without an expression nothing matches. -/
  expression : Option Expression := none
  onMatch : OnMatch := {}
deriving DecidableEq, Inhabited

/-- A function that takes the place of generated code. -/
structure CodeArtifact where
  language : Option String := none
  functionName : Option String := none
  parameters : List String := []
  code : Option String := none
  description : Option String := none
deriving DecidableEq, Repr, Inhabited

/-- A planned call of a tool; the arguments are in ascending order of their names. -/
structure ToolCall where
  toolName : String := ""
  arguments : List (String × Value) := []
deriving Inhabited

structure ToolPlan where
  toolCalls : List ToolCall := []
deriving Inhabited

/-- A text with a plan of tool calls. -/
structure ReactArtifact where
  assistantText : Option String := none
  plan : Option ToolPlan := none
deriving Inhabited

structure Artifact where
  code : Option CodeArtifact := none
  react : Option ReactArtifact := none
deriving Inhabited

/-- An authored answer or plan. -/
structure Experience where
  id : String := ""
  title : String := ""
  kind : ExperienceKind := .common
  updatedAt : Option Timestamp := none
  fastIntent : Option FastIntent := none
  artifact : Option Artifact := none
deriving Inhabited

namespace Experience

/-- The priority, zero without a fast-intent part. -/
def priority (e : Experience) : Int := (e.fastIntent.map fun f => f.priority.toInt).getD 0

/-- True if there is a fast-intent part and it is enabled. -/
def isEnabled (e : Experience) : Bool := (e.fastIntent.map FastIntent.enabled).getD false

end Experience

/-- An enabled fast-intent part of priority zero. -/
def FastIntent.ofExpression (e : Expression) : FastIntent :=
  { enabled := true, expression := some e }

/-! ## Names -/

namespace ExperienceKind

def name : ExperienceKind → String
  | .code => "CODE"
  | .react => "REACT"
  | .common => "COMMON"

def reading : Reading ExperienceKind :=
  .choice [("CODE", .code), ("REACT", .react), ("COMMON", .common)]

end ExperienceKind

namespace Mode

def name : Mode → String
  | .fastPath => "FASTPATH"
  | .fastPathThenReference => "FASTPATH_THEN_REFERENCE"

def reading : Reading Mode :=
  .choice [("FASTPATH", .fastPath), ("FASTPATH_THEN_REFERENCE", .fastPathThenReference)]

end Mode

namespace Fallback

def name : Fallback → String
  | .referenceOnly => "REFERENCE_ONLY"
  | .failFast => "FAIL_FAST"

def reading : Reading Fallback :=
  .choice [("REFERENCE_ONLY", .referenceOnly), ("FAIL_FAST", .failFast)]

end Fallback

/-! ## Reading

The `levels` bound how deep expressions may nest, as in `Expression.reading`.
-/

def OnMatch.reading : Reading OnMatch :=
  .record "OnMatch" [
    .optional "mode" Mode.reading fun m o => { o with mode := m },
    .optional "fallback" Fallback.reading fun f o => { o with fallback := f }] {}

/-- The priorities that a document may give. -/
def priorityReading : Reading Int32 :=
  (Reading.integer "i32" (-0x80000000) 0x7FFFFFFF).map Int32.ofInt

def FastIntent.reading (levels : Nat) : Reading FastIntent :=
  .record "FastIntentConfig" [
    .optional "enabled" .flag fun b f => { f with enabled := b },
    .optional "priority" priorityReading fun p f => { f with priority := p },
    .optional "match" (.nullable (Expression.reading levels)) fun e f =>
      { f with expression := e },
    .optional "onMatch" OnMatch.reading fun o f => { f with onMatch := o }] {}

def CodeArtifact.reading : Reading CodeArtifact :=
  .record "CodeArtifact" [
    .optional "language" (.nullable .text) fun s a => { a with language := s },
    .optional "functionName" (.nullable .text) fun s a => { a with functionName := s },
    .optional "parameters" (.list .text) fun ps a => { a with parameters := ps },
    .optional "code" (.nullable .text) fun s a => { a with code := s },
    .optional "description" (.nullable .text) fun s a => { a with description := s }] {}

def ToolCall.reading : Reading ToolCall :=
  .record "ToolCallSpec" [
    .mandatory "toolName" .text fun s t => { t with toolName := s },
    .optional "arguments" .table fun fs t => { t with arguments := fs }] {}

def ToolPlan.reading : Reading ToolPlan :=
  .record "ToolPlan" [
    .optional "toolCalls" (.list ToolCall.reading) fun cs p => { p with toolCalls := cs }] {}

def ReactArtifact.reading : Reading ReactArtifact :=
  .record "ReactArtifact" [
    .optional "assistantText" (.nullable .text) fun s a => { a with assistantText := s },
    .optional "plan" (.nullable ToolPlan.reading) fun p a => { a with plan := p }] {}

def Artifact.reading : Reading Artifact :=
  .record "ExperienceArtifact" [
    .optional "code" (.nullable CodeArtifact.reading) fun c a => { a with code := c },
    .optional "react" (.nullable ReactArtifact.reading) fun r a => { a with react := r }] {}

/-- A timestamp in a document. -/
def Timestamp.reading : Reading Timestamp :=
  .converted "an RFC 3339 formatted date and time string" fun s =>
    (Timestamp.ofChars s.toList).mapError fun e => .rejected e.message

namespace Experience

def reading (levels : Nat) : Reading Experience :=
  .record "Experience" [
    .optional "id" .text fun s e => { e with id := s },
    .optional "title" .text fun s e => { e with title := s },
    .optional "type" ExperienceKind.reading fun k e => { e with kind := k },
    .optional "updatedAt" (.nullable Timestamp.reading) fun t e => { e with updatedAt := t },
    .optional "fastIntentConfig" (.nullable (FastIntent.reading levels)) fun f e =>
      { e with fastIntent := f },
    .optional "artifact" (.nullable Artifact.reading) fun a e => { e with artifact := a }] {}

/-- Decodes an experience from a value. -/
def decode (v : Value) : Except Refusal Experience := (reading (v.depth + 1)).decode v

/-- Decodes an experience from a text. -/
def parse (text : String) : Except Refusal Experience := (reading (depthLimit + 1)).parse text

/-- Decodes an array of experiences from a value. -/
def decodeList (v : Value) : Except Refusal (List Experience) :=
  (Reading.list (reading (v.depth + 1))).decode v

/-- Decodes an array of experiences from a text. -/
def parseList (text : String) : Except Refusal (List Experience) :=
  (Reading.list (reading (depthLimit + 1))).parse text

end Experience

/-! ## Writing -/

def OnMatch.toJson (o : OnMatch) : Value :=
  .object (always "mode" (.string o.mode.name) ++ always "fallback" (.string o.fallback.name))

/-- How a priority is written. -/
def priorityJson (p : Int32) : Value :=
  match Whole.ofInt? p.toInt with
  | some w => .number (.whole w)
  | none => .null

def FastIntent.toJson (f : FastIntent) : Value :=
  .object (always "enabled" (.bool f.enabled) ++
    always "priority" (priorityJson f.priority) ++
    whenSome "match" Expression.toJson f.expression ++
    always "onMatch" f.onMatch.toJson)

def CodeArtifact.toJson (a : CodeArtifact) : Value :=
  .object (whenSome "language" .string a.language ++
    whenSome "functionName" .string a.functionName ++
    always "parameters" (.array (a.parameters.map .string)) ++
    whenSome "code" .string a.code ++
    whenSome "description" .string a.description)

def ToolCall.toJson (t : ToolCall) : Value :=
  .object (always "toolName" (.string t.toolName) ++ always "arguments" (.object t.arguments))

def ToolPlan.toJson (p : ToolPlan) : Value :=
  .object (always "toolCalls" (.array (p.toolCalls.map ToolCall.toJson)))

def ReactArtifact.toJson (a : ReactArtifact) : Value :=
  .object (whenSome "assistantText" .string a.assistantText ++
    whenSome "plan" ToolPlan.toJson a.plan)

def Artifact.toJson (a : Artifact) : Value :=
  .object (whenSome "code" CodeArtifact.toJson a.code ++
    whenSome "react" ReactArtifact.toJson a.react)

def Experience.toJson (e : Experience) : Value :=
  .object (always "id" (.string e.id) ++
    always "title" (.string e.title) ++
    always "type" (.string e.kind.name) ++
    whenSome "updatedAt" (fun t => .string t.text) e.updatedAt ++
    whenSome "fastIntentConfig" FastIntent.toJson e.fastIntent ++
    whenSome "artifact" Artifact.toJson e.artifact)

end IntentSelect
