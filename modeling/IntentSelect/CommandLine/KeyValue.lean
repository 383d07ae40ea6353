import IntentSelect.Json.Reading
import IntentSelect.Text.Blank

/-!
# Entries on the command line

Metadata, state and tool arguments are given as `key=value`.  The first equals sign divides the two.
The value is read as JSON if it is a JSON document, and is taken as it stands otherwise.
-/
namespace IntentSelect.CommandLine

open Json

/-- What is wrong with an entry. -/
inductive EntryFault where
  | noEquals (raw : String)
  | blankKey (raw : String)
deriving DecidableEq, Repr

namespace EntryFault

def message : EntryFault → String
  | .noEquals raw => "expected key=value, got '" ++ raw ++ "'"
  | .blankKey raw => "empty key in '" ++ raw ++ "'"

end EntryFault

/-- The characters before and after the first equals sign. -/
def splitAtEquals : List Char → Option (List Char × List Char)
  | [] => none
  | c :: cs =>
    if c = '=' then some ([], cs) else (splitAtEquals cs).map fun p => (c :: p.1, p.2)

/-- The value that a text on the command line stands for. -/
def valueOf (text : String) : Value :=
  match Value.parse text with
  | .ok v => v
  | .error _ => .string text

/-- Reads an entry. -/
def readEntry (raw : String) : Except EntryFault (String × Value) :=
  match splitAtEquals raw.toList with
  | none => .error (.noEquals raw)
  | some (key, value) =>
    if Text.hasText (String.ofList key) then
      .ok (String.ofList key, valueOf (String.ofList value))
    else .error (.blankKey raw)

end IntentSelect.CommandLine
