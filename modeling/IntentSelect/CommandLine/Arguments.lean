import IntentSelect.CommandLine.KeyValue

/-!
# Arguments

The arguments of the program are an input text, options that take a value and switches that take
none.  The value of an option may be attached to it or follow it; it is checked as soon as the next
argument has been understood, so that an argument that is not understood is refused first.  After
`--` everything is an input text.
-/
namespace IntentSelect.CommandLine

open Json

/-- What the program is asked to do. -/
structure Request where
  input : String
  experiences : String := "experiences"
  config : Option String := none
  metadata : List (String × Value) := []
  state : List (String × Value) := []
  toolArgs : List (String × Value) := []
  json : Bool := false
  verbose : Bool := false

/-- An argument that takes a value. -/
inductive Opt where
  | experiences
  | config
  | metadata
  | state
  | toolArg
deriving DecidableEq, Repr

/-- An argument that takes no value. -/
inductive Switch where
  | json
  | verbose
  | help
  | version
deriving DecidableEq, Repr

/-- What stands behind a name. -/
inductive Known where
  | opt (o : Opt)
  | switch (s : Switch)
deriving DecidableEq, Repr

namespace Opt

/-- How a message shows an option. -/
def shown : Opt → String
  | .experiences => "--experiences <EXPERIENCES>"
  | .config => "--config <CONFIG>"
  | .metadata => "--metadata <METADATA>"
  | .state => "--state <STATE>"
  | .toolArg => "--tool-arg <TOOL_ARGS>"

end Opt

namespace Switch

def shown : Switch → String
  | .json => "--json"
  | .verbose => "--verbose"
  | .help => "--help"
  | .version => "--version"

end Switch

/-- The names after two dashes. -/
def longNames : List (String × Known) := [
  ("experiences", .opt .experiences), ("config", .opt .config), ("metadata", .opt .metadata),
  ("state", .opt .state), ("tool-arg", .opt .toolArg), ("json", .switch .json),
  ("verbose", .switch .verbose), ("help", .switch .help), ("version", .switch .version)]

/-- The letters after one dash. -/
def shortNames : List (Char × Known) := [
  ('e', .opt .experiences), ('c', .opt .config), ('v', .switch .verbose), ('h', .switch .help),
  ('V', .switch .version)]

/-- Why arguments are refused. -/
inductive UsageError where
  | unexpected (argument : String)
  | valueNotWanted (value : String) (s : Switch)
  | valueMissing (o : Opt)
  | optionRepeated (o : Opt)
  | switchRepeated (s : Switch)
  | invalidEntry (raw : String) (o : Opt) (fault : EntryFault)
  | inputMissing
deriving DecidableEq, Repr

namespace UsageError

/-- The text as a terminal emphasises it. -/
def emphasized (text : String) : String := "\x1b[1m" ++ text ++ "\x1b[0m"

/-- The text between quotes, emphasised. -/
def quoted (text : String) : String := "'" ++ emphasized text ++ "'"

/-- What is wrong, with control sequences for emphasis. -/
def message : UsageError → String
  | .unexpected argument => "unexpected argument " ++ quoted argument ++ " found"
  | .valueNotWanted value s =>
    "unexpected value " ++ quoted value ++ " for " ++ quoted s.shown ++
      " found; no more were expected"
  | .valueMissing o => "a value is required for " ++ quoted o.shown ++ " but none was supplied"
  | .optionRepeated o => "the argument " ++ quoted o.shown ++ " cannot be used multiple times"
  | .switchRepeated s => "the argument " ++ quoted s.shown ++ " cannot be used multiple times"
  | .invalidEntry raw o fault =>
    "invalid value " ++ quoted raw ++ " for " ++ quoted o.shown ++ ": " ++ fault.message
  | .inputMissing =>
    "the following required arguments were not provided:\n  " ++ emphasized "<INPUT>"

/-- True if it helps to be told how the program is used. -/
def needsUsage : UsageError → Bool
  | .valueMissing _ | .invalidEntry .. => false
  | _ => true

end UsageError

/-- Why reading arguments ends early. -/
inductive Stop where
  | refused (e : UsageError)
  | help
  | version
deriving DecidableEq, Repr

/-- An option whose value is not settled yet. -/
inductive Pending where
  | none
  | awaits (o : Opt)
  | holds (o : Opt) (raw : String)
deriving DecidableEq, Repr

/-- What has been understood so far. -/
structure Draft where
  input : Option String := none
  experiences : Option String := none
  config : Option String := none
  metadata : List (String × Value) := []
  state : List (String × Value) := []
  toolArgs : List (String × Value) := []
  json : Bool := false
  verbose : Bool := false
  pending : Pending := .none
  /-- True after `--`. -/
  onlyInput : Bool := false

namespace Draft

def refuse {α : Type} (e : UsageError) : Except Stop α := .error (.refused e)

/-! ## Values of options -/

/-- A path, which may be given once and must not be empty. -/
def setPath (before : Option String) (o : Opt) (raw : String) : Except Stop (Option String) :=
  if before.isSome then refuse (.optionRepeated o)
  else if raw.isEmpty then refuse (.valueMissing o)
  else .ok (some raw)

/-- One more entry. -/
def addEntry (before : List (String × Value)) (o : Opt) (raw : String) :
    Except Stop (List (String × Value)) :=
  match readEntry raw with
  | .ok entry => .ok (before ++ [entry])
  | .error fault => refuse (.invalidEntry raw o fault)

/-- Gives an option its value. -/
def setOpt (d : Draft) (o : Opt) (raw : String) : Except Stop Draft :=
  match o with
  | .experiences => do return { d with experiences := ← setPath d.experiences o raw }
  | .config => do return { d with config := ← setPath d.config o raw }
  | .metadata => do return { d with metadata := ← addEntry d.metadata o raw }
  | .state => do return { d with state := ← addEntry d.state o raw }
  | .toolArg => do return { d with toolArgs := ← addEntry d.toolArgs o raw }

/-- Settles the option that is pending. -/
def settle (d : Draft) : Except Stop Draft :=
  match d.pending with
  | .none => .ok d
  | .awaits o => refuse (.valueMissing o)
  | .holds o raw => { d with pending := .none }.setOpt o raw

/-! ## Arguments -/

/-- Turns a switch on. -/
def setSwitch (d : Draft) (s : Switch) : Except Stop Draft := do
  let d ← d.settle
  match s with
  | .json => if d.json then refuse (.switchRepeated s) else return { d with json := true }
  | .verbose => if d.verbose then refuse (.switchRepeated s) else return { d with verbose := true }
  | .help => throw .help
  | .version => throw .version

/-- Gives an option its value, if that is attached to it, or waits for it. -/
def beginOpt (d : Draft) (o : Opt) (attached : Option String) : Except Stop Draft := do
  let d ← d.settle
  match attached with
  | some raw => d.setOpt o raw
  | none => return { d with pending := .awaits o }

/-- An argument that begins with two dashes, which are left out here. -/
def takeLong (d : Draft) (text : List Char) : Except Stop Draft :=
  let (name, attached) := match splitAtEquals text with
    | some (name, value) => (String.ofList name, some (String.ofList value))
    | none => (String.ofList text, none)
  match longNames.lookup name with
  | none => refuse (.unexpected ("--" ++ name))
  | some (.opt o) => d.beginOpt o attached
  | some (.switch s) =>
    match attached with
    | some value => refuse (.valueNotWanted value s)
    | none => d.setSwitch s

/-- The value attached to a letter. -/
def attachedTo (rest : List Char) : Option String :=
  match rest with
  | [] => none
  | '=' :: value => some (String.ofList value)
  | value => some (String.ofList value)

/-- Letters after one dash. -/
def takeShort (d : Draft) : List Char → Except Stop Draft
  | [] => .ok d
  | c :: rest =>
    match shortNames.lookup c with
    | none => refuse (.unexpected (String.ofList ['-', c]))
    | some (.opt o) => d.beginOpt o (attachedTo rest)
    | some (.switch s) => do
      let d ← d.setSwitch s
      takeShort d rest

/-- An input text, of which there is only one. -/
def takeInput (d : Draft) (text : String) : Except Stop Draft :=
  if d.input.isSome then refuse (.unexpected text)
  else do
    let d ← d.settle
    return { d with input := some text }

/-- The next argument. -/
def take (d : Draft) (argument : String) : Except Stop Draft :=
  if d.onlyInput then d.takeInput argument
  else
    match argument.toList with
    | ['-', '-'] => .ok { d with onlyInput := true }
    | '-' :: '-' :: text => d.takeLong text
    | '-' :: c :: text => d.takeShort (c :: text)
    | _ =>
      match d.pending with
      | .awaits o => .ok { d with pending := .holds o argument }
      | _ => d.takeInput argument

/-- The request that has been understood, once there are no more arguments. -/
def finish (d : Draft) : Except Stop Request := do
  let d ← d.settle
  match d.input with
  | none => refuse .inputMissing
  | some input =>
    return { input, config := d.config, metadata := d.metadata, state := d.state,
             toolArgs := d.toolArgs, json := d.json, verbose := d.verbose,
             experiences := d.experiences.getD "experiences" }

end Draft

/-- Understands the arguments of the program. -/
def Request.ofArguments (arguments : List String) : Except Stop Request := do
  let d ← arguments.foldlM Draft.take {}
  d.finish

end IntentSelect.CommandLine
