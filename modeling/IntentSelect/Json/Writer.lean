import IntentSelect.Json.Value

/-!
# Building objects

Objects that a record is written as: fields in the order of their declaration, with those left out
that hold nothing.
-/
namespace IntentSelect.Json

/-- A field that is always written. -/
def always (name : String) (v : Value) : List (String × Value) := [(name, v)]

/-- A field that is left out if there is nothing to write. -/
def whenSome {α : Type} (name : String) (write : α → Value) : Option α → List (String × Value)
  | none => []
  | some x => [(name, write x)]

/-- A list that is left out if it is empty. -/
def whenNonempty {α : Type} (name : String) (write : α → Value) : List α → List (String × Value)
  | [] => []
  | x :: xs => [(name, .array ((x :: xs).map write))]

end IntentSelect.Json
