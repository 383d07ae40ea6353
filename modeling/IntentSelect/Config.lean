import IntentSelect.Error
import IntentSelect.Json.Reading
import IntentSelect.Json.Writer
import IntentSelect.Storage

/-!
# Configuration

The settings of the engine: whether it selects at all, and how large a compiled pattern may be.
-/
namespace IntentSelect

open Json

structure Config where
  enabled : Bool := true
  /-- The greatest size of a compiled pattern, in bytes. -/
  regexSizeLimit : Nat := 1048576
deriving DecidableEq, Repr, Inhabited

namespace Config

/-- How a configuration is read. -/
def reading : Reading Config :=
  .record "FastPathConfig" [
    .optional "enabled" .flag fun b c => { c with enabled := b },
    .optional "regexSizeLimit" (.integer "usize" 0 0xFFFFFFFFFFFFFFFF) fun n c =>
      { c with regexSizeLimit := n.toNat }] {}

/-- A pattern has to be allowed some size. -/
def validate (c : Config) : Except Error Unit :=
  if c.regexSizeLimit = 0 then
    .error (.invalidConfig "regexSizeLimit must be greater than zero")
  else .ok ()

/-- Reads and checks a configuration. -/
def parse (text : String) : Except Error Config := do
  let c ← (reading.parse text).mapError .json
  c.validate
  return c

/-- Reads and checks a configuration file. -/
def load (files : Storage) (path : String) : Except Error Config := do
  let text ← (files.readText path).mapError .io
  parse text

/-- The default configuration with selection switched off. -/
def disabled : Config := { enabled := false }

/-- How a configuration is written. -/
def toJson (c : Config) : Value :=
  .object (always "enabled" (.bool c.enabled) ++
    always "regexSizeLimit" (match Whole.ofInt? c.regexSizeLimit with
      | some w => .number (.whole w)
      | none => .null))

end Config

end IntentSelect
