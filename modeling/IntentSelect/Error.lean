import IntentSelect.Json.Cause

/-!
# Errors

Everything that can go wrong, by cause, with the code under which it is reported, the group it
belongs to, and its text.
-/
namespace IntentSelect

/-- Why a file cannot be read as text. -/
inductive FileFault where
  | notFound
  | isDirectory
  | notDirectory
  | notText
  | other (message : String)
deriving DecidableEq, Inhabited

namespace FileFault

def message : FileFault → String
  | .notFound => "No such file or directory (os error 2)"
  | .isDirectory => "Is a directory (os error 21)"
  | .notDirectory => "Not a directory (os error 20)"
  | .notText => "stream did not contain valid UTF-8"
  | .other message => message

end FileFault

/-- What an error is about. -/
inductive ErrorCategory where
  | matching
  | validation
  | conflict
  | external
deriving DecidableEq, Repr

namespace ErrorCategory

def name : ErrorCategory → String
  | .matching => "matching"
  | .validation => "validation"
  | .conflict => "conflict"
  | .external => "external"

end ErrorCategory

inductive Error where
  /-- A pattern that cannot be used. -/
  | invalidPattern (pattern reason : String)
  /-- A matcher that could not decide its condition. -/
  | matcherFailed (kind reason : String)
  | invalidExperience (reason : String)
  | duplicateExperience (id : String)
  /-- A file of experiences that cannot be read or decoded. -/
  | experienceLoad (path reason : String)
  | invalidConfig (reason : String)
  | json (refusal : Json.Refusal)
  | io (fault : FileFault)
deriving DecidableEq

namespace Error

/-- An experience without an id. -/
def blankId (title : String) : Error :=
  .invalidExperience ("experience '" ++ title ++ "' has a blank id")

/-- A document that is neither an experience nor a list of them. -/
def notExperiences (v : Json.Value) : Error :=
  .invalidExperience ("expected an object or array, got " ++ v.kind)

def code : Error → String
  | .invalidPattern .. => "INVALID_PATTERN"
  | .matcherFailed .. => "MATCHER_FAILED"
  | .invalidExperience .. => "INVALID_EXPERIENCE"
  | .duplicateExperience .. => "DUPLICATE_EXPERIENCE"
  | .experienceLoad .. => "EXPERIENCE_LOAD_ERROR"
  | .invalidConfig .. => "INVALID_CONFIG"
  | .json .. => "JSON_ERROR"
  | .io .. => "IO_ERROR"

def category : Error → ErrorCategory
  | .invalidPattern .. | .matcherFailed .. => .matching
  | .invalidExperience .. | .invalidConfig .. => .validation
  | .duplicateExperience .. => .conflict
  | .experienceLoad .. | .json .. | .io .. => .external

/-- True if the error was raised while a condition was decided. -/
def isMatcherFailure (e : Error) : Bool := e.category == .matching

def message : Error → String
  | .invalidPattern pattern reason => "Invalid pattern '" ++ pattern ++ "': " ++ reason
  | .matcherFailed kind reason => "Matcher '" ++ kind ++ "' failed: " ++ reason
  | .invalidExperience reason => "Invalid experience: " ++ reason
  | .duplicateExperience id =>
    "Duplicate experience id: '" ++ id ++ "'. Experience ids must be unique within a catalog."
  | .experienceLoad path reason =>
    "Failed to load experiences from '" ++ path ++ "': " ++ reason
  | .invalidConfig reason => "Invalid configuration: " ++ reason
  | .json refusal => "JSON error: " ++ refusal.message
  | .io fault => "IO error: " ++ fault.message

end Error

end IntentSelect
