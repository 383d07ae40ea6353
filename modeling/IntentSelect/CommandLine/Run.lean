import IntentSelect.Catalog
import IntentSelect.CommandLine.Arguments
import IntentSelect.Selector
import IntentSelect.Text.Visible

/-!
# Running the program

The program loads a configuration and experiences, and shows which experience would be selected for
an input.  Its status is zero if one is selected, two if none is or the arguments are refused, and
one if something cannot be loaded.
-/
namespace IntentSelect.CommandLine

open Json

/-- What a run of the program leaves behind. -/
structure Response where
  status : Nat
  out : String := ""
  err : String := ""
deriving DecidableEq, Repr

def programName : String := "fastpath-select"

def programVersion : String := "0.1.0"

/-- How the program is used. -/
def usage : String := "Usage: " ++ programName ++ " [OPTIONS] <INPUT>\n"

/-- What is shown on request. -/
def helpText : String :=
  "Select the fast-intent experience that matches an input\n\n" ++ usage ++
    "\nArguments:\n  <INPUT>  The user input to match\n\nOptions:\n" ++
    "  -e, --experiences <EXPERIENCES>  Experience JSON file or directory of JSON files " ++
    "[default: experiences]\n" ++
    "  -c, --config <CONFIG>            Engine config JSON file\n" ++
    "      --metadata <METADATA>        Configuration metadata entry (key=value, repeatable)\n" ++
    "      --state <STATE>              State entry (key=value, repeatable)\n" ++
    "      --tool-arg <TOOL_ARGS>       Pending tool-call argument (key=value, repeatable)\n" ++
    "      --json                       Output as JSON\n" ++
    "  -v, --verbose                    Verbose output (show every matching candidate)\n" ++
    "  -h, --help                       Print help\n" ++
    "  -V, --version                    Print version\n"

/-- What is told about arguments that are refused.  Only the words are told: the emphasis is left
out, and so are control sequences in an argument. -/
def UsageError.report (e : UsageError) : String :=
  Text.withoutControls
    ("error: " ++ e.message ++ "\n\n" ++ (if e.needsUsage then usage ++ "\n" else "") ++
      "For more information, try " ++ UsageError.quoted "--help" ++ ".\n")

/-- The response to arguments that end the program early. -/
def Stop.response : Stop → Response
  | .refused e => { status := 2, err := e.report }
  | .help => { status := 0, out := helpText }
  | .version => { status := 0, out := programName ++ " " ++ programVersion ++ "\n" }

/-! ## Output -/

/-- How a mode is shown. -/
def modeText : Mode → String
  | .fastPath => "FastPath"
  | .fastPathThenReference => "FastPathThenReference"

/-- How a fallback is shown. -/
def fallbackText : Fallback → String
  | .referenceOnly => "ReferenceOnly"
  | .failFast => "FailFast"

def priorityText (e : Experience) : String := String.ofList (wholeChars e.priority)

/-- What is selected, for people. -/
def plainOutput : Option Experience → String
  | none => "No fast-intent match.\n"
  | some e =>
    "Matched: " ++ e.id ++ " [" ++ e.kind.name ++ "]\n" ++
      "Title:   " ++ e.title ++ "\n" ++
      "Priority: " ++ priorityText e ++ "\n" ++
      match e.fastIntent with
      | none => ""
      | some f =>
        "On match: " ++ modeText f.onMatch.mode ++ " / fallback " ++
          fallbackText f.onMatch.fallback ++ "\n"

/-- What is selected, as a document. -/
def selectionJson (best : Option Experience) : Value :=
  .object [("matched", .bool best.isSome),
    ("experience", match best with
      | none => .null
      | some e => e.toJson)]

/-- What is selected. -/
def output (json : Bool) (best : Option Experience) : String :=
  if json then (selectionJson best).pretty ++ "\n" else plainOutput best

/-- What is told about the experiences and the input. -/
def preamble (r : Request) (catalog : Catalog) : String :=
  "Experiences: " ++ String.ofList (Nat.toDigits 10 catalog.size) ++ " loaded from " ++
    r.experiences ++ "\nInput: \"" ++ r.input ++ "\"\n\n"

/-- What is told about a candidate that matches. -/
def matchedLine (e : Experience) : String :=
  "  matched: " ++ e.id ++ " (priority " ++ priorityText e ++ ")\n"

/-! ## Running -/

/-- The context of a request; the last value given for a key counts. -/
def Request.context (r : Request) : Context where
  input := some r.input
  metadata := Fields.ofList r.metadata
  state := some (.ofFields (Fields.ofList r.state))
  toolArgs := Fields.ofList r.toolArgs

/-- The configuration that a request names. -/
def Request.loadConfig (r : Request) (files : Storage) : Except Error Config :=
  match r.config with
  | none => .ok {}
  | some path => Config.load files path

/-- The response to a request once everything is loaded. -/
def respond (r : Request) (config : Config) (catalog : Catalog) : Response :=
  let ctx := r.context
  let selector := (Selector.build [] config).result
  let best := (selector.best? ctx catalog.toList).result
  let told :=
    if r.verbose then
      let matching := (selector.matching ctx catalog.toList).result
      preamble r catalog ++ String.join (matching.map matchedLine)
    else ""
  { status := if best.isSome then 0 else 2, out := output r.json best, err := told }

/-- Carries out a request. -/
def Request.run (r : Request) (files : Storage) : Response :=
  match r.loadConfig files with
  | .error e => { status := 1, err := "Error loading config: " ++ e.message ++ "\n" }
  | .ok config =>
    match (Catalog.empty.loadPath files r.experiences).result with
    | .error e => { status := 1, err := "Error loading experiences: " ++ e.message ++ "\n" }
    | .ok (_, catalog) => respond r config catalog

/-- Runs the program. -/
def run (files : Storage) (arguments : List String) : Response :=
  match Request.ofArguments arguments with
  | .ok r => r.run files
  | .error stop => stop.response

end IntentSelect.CommandLine
