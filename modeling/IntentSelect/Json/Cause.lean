import IntentSelect.Json.Printer
import IntentSelect.Text.Quoted

/-!
# Why a document is refused

A `Cause` says what is wrong with a text or with a value that was to be decoded.  While a text is
read, a refusal is a `Fault`: a cause together with the characters that had not been consumed when
it was found, and how many bytes of those had been looked at.  `Fault.place` turns that into a line
and a column.  A refusal as it is handed out (`Refusal`) has a place if it comes from a text and
none if it comes from a value.
-/
namespace IntentSelect.Json

/-- What stood where something else was expected. -/
inductive Found where
  | null
  | bool (b : Bool)
  | whole (i : Int)
  | float (bits : UInt64)
  | string (s : String)
  | sequence
  | map
deriving DecidableEq

namespace Found

def message : Found → String
  | .null => "null"
  | .bool b => "boolean `" ++ String.ofList (boolChars b) ++ "`"
  | .whole i => "integer `" ++ String.ofList (wholeChars i) ++ "`"
  | .float bits => "floating point `" ++ String.ofList (Number.float bits).chars ++ "`"
  | .string s => "string " ++ Text.quoted s
  | .sequence => "sequence"
  | .map => "map"

def ofNumber : Number → Found
  | .whole w => .whole w.val
  | .float bits => .float bits

def ofValue : Value → Found
  | .null => .null
  | .bool b => .bool b
  | .number n => ofNumber n
  | .string s => .string s
  | .array _ => .sequence
  | .object _ => .map

end Found

/-- Why a text or a value is refused. -/
inductive Cause where
  | endOfValue
  | endOfString
  | endOfList
  | endOfObject
  | expectedValue
  | expectedWord
  | expectedColon
  | expectedListEnd
  | expectedObjectEnd
  | keyNotString
  | trailingComma
  | trailingCharacters
  | invalidNumber
  | numberOutOfRange
  | invalidEscape
  | controlCharacter
  | loneSurrogate
  | endOfEscape
  | tooDeep
  /-- Something of another kind than expected. -/
  | wrongType (found : Found) (expected : String)
  /-- Something of the expected kind that is no admissible value. -/
  | wrongValue (found : Found) (expected : String)
  /-- A sequence with a length that does not fit. -/
  | wrongLength (length : Nat) (expected : String)
  | unknownVariant (name : String) (variants : List String)
  | missingField (name : String)
  | repeatedField (name : String)
  /-- A text whose content is refused. -/
  | rejected (message : String)
deriving DecidableEq

/-- Names between backquotes, as a list of alternatives. -/
def alternatives : List String → String
  | [] => ""
  | [a] => "`" ++ a ++ "`"
  | [a, b] => "`" ++ a ++ "` or `" ++ b ++ "`"
  | names => "one of " ++ String.intercalate ", " (names.map fun n => "`" ++ n ++ "`")

namespace Cause

def message : Cause → String
  | .endOfValue => "EOF while parsing a value"
  | .endOfString => "EOF while parsing a string"
  | .endOfList => "EOF while parsing a list"
  | .endOfObject => "EOF while parsing an object"
  | .expectedValue => "expected value"
  | .expectedWord => "expected ident"
  | .expectedColon => "expected `:`"
  | .expectedListEnd => "expected `,` or `]`"
  | .expectedObjectEnd => "expected `,` or `\x7d`"
  | .keyNotString => "key must be a string"
  | .trailingComma => "trailing comma"
  | .trailingCharacters => "trailing characters"
  | .invalidNumber => "invalid number"
  | .numberOutOfRange => "number out of range"
  | .invalidEscape => "invalid escape"
  | .controlCharacter => "control character (\\u0000-\\u001F) found while parsing a string"
  | .loneSurrogate => "lone leading surrogate in hex escape"
  | .endOfEscape => "unexpected end of hex escape"
  | .tooDeep => "recursion limit exceeded"
  | .wrongType found expected => "invalid type: " ++ found.message ++ ", expected " ++ expected
  | .wrongValue found expected => "invalid value: " ++ found.message ++ ", expected " ++ expected
  | .wrongLength n expected =>
    "invalid length " ++ String.ofList (Nat.toDigits 10 n) ++ ", expected " ++ expected
  | .unknownVariant name variants =>
    "unknown variant `" ++ name ++ "`, expected " ++ alternatives variants
  | .missingField name => "missing field `" ++ name ++ "`"
  | .repeatedField name => "duplicate field `" ++ name ++ "`"
  | .rejected message => message

end Cause

/-- A refusal found while a text is read: what had not been consumed, and how many bytes of that had
been looked at. -/
structure Fault where
  cause : Cause
  rest : List Char
  ahead : Nat
deriving DecidableEq

/-- The bytes of characters in UTF-8. -/
def utf8 (cs : List Char) : List UInt8 := cs.flatMap String.utf8EncodeChar

/-- The bytes after the last line feed. -/
def lastLine (bytes : List UInt8) : List UInt8 :=
  (bytes.reverse.takeWhile (· != 10)).reverse

namespace Fault

/-- A fault found before the next character is looked at. -/
def here (cause : Cause) (rest : List Char) : Fault := ⟨cause, rest, 0⟩

/-- A fault found by looking at the next character. -/
def next (cause : Cause) (rest : List Char) : Fault := ⟨cause, rest, 1⟩

/-- The line, counted from one, and the number of its bytes that had been read or looked at. -/
def place (f : Fault) (text : List Char) : Nat × Nat :=
  let consumed := utf8 (text.take (text.length - f.rest.length))
  let seen := consumed ++ (utf8 f.rest).take f.ahead
  (seen.count 10 + 1, (lastLine seen).length)

end Fault

/-- A refusal as it is handed out, with line and column if it comes from a text. -/
structure Refusal where
  cause : Cause
  place : Option (Nat × Nat)
deriving DecidableEq

namespace Refusal

def ofCause (cause : Cause) : Refusal := ⟨cause, none⟩

def ofFault (text : List Char) (f : Fault) : Refusal := ⟨f.cause, some (f.place text)⟩

def message (r : Refusal) : String :=
  match r.place with
  | none => r.cause.message
  | some (line, column) =>
    r.cause.message ++ " at line " ++ String.ofList (Nat.toDigits 10 line) ++ " column " ++
      String.ofList (Nat.toDigits 10 column)

end Refusal

end IntentSelect.Json
