import IntentSelect.Json.Container

/-!
# Decoding

A `Reading α` decodes an `α` in two ways: from a value, and directly from a text without building a
value first.  Both accept the same documents, but the second sees fields in the order in which they
are written and notices a field that is given twice, and its refusals have a place.

Readings are put together from smaller ones: texts, flags, integers, any value at all; lists,
tables, optional parts; and records, which are written as an object with named fields or as an array
with the fields in order.  A record is read by folding over its fields; each `Slot` says how the
value of one field changes what has been put together so far.
-/
namespace IntentSelect.Json

/-- A way to decode. `ofText` takes how many arrays and objects may still be opened. -/
structure Reading (α : Type) where
  ofValue : Value → Except Cause α
  ofText : Nat → List Char → Except Fault (α × List Char)

namespace Reading
variable {α β σ : Type}

/-! ## Running a reading -/

/-- Decodes from a value. -/
def decode (r : Reading α) (v : Value) : Except Refusal α :=
  (r.ofValue v).mapError Refusal.ofCause

/-- Reads to the end of a text. -/
def toEnd (r : Reading α) (text : List Char) : Except Fault α := do
  let (x, rest) ← r.ofText depthLimit text
  match skipSpace rest with
  | [] => return x
  | c :: more => throw (.next .trailingCharacters (c :: more))

/-- Decodes from a text. -/
def parse (r : Reading α) (text : String) : Except Refusal α :=
  (r.toEnd text.toList).mapError (Refusal.ofFault text.toList)

def map (f : α → β) (r : Reading α) : Reading β where
  ofValue v := (r.ofValue v).map f
  ofText depth cs := (r.ofText depth cs).map fun p => (f p.1, p.2)

/-! ## Single values -/

/-- The fault of a text that begins with something of another kind. -/
def mismatch (expected : String) (cs : List Char) : Fault :=
  let wrong := fun (found : Found) (rest : List Char) => Fault.here (.wrongType found expected) rest
  let after := fun (found : Found) (r : Except Fault (List Char)) =>
    match r with
    | .ok rest => wrong found rest
    | .error f => f
  match cs with
  | [] => .here .endOfValue []
  | c :: rest =>
    if c = 'n' then after .null (scanWord ['u', 'l', 'l'] rest)
    else if c = 't' then after (.bool true) (scanWord ['r', 'u', 'e'] rest)
    else if c = 'f' then after (.bool false) (scanWord ['a', 'l', 's', 'e'] rest)
    else if c = '-' ∨ c.isDigit = true then
      match scanNumber (c :: rest) with
      | .ok (n, rest) => wrong (.ofNumber n) rest
      | .error f => f
    else if c = '"' then
      match scanString rest with
      | .ok (s, rest) => wrong (.string (String.ofList s)) rest
      | .error f => f
    else if c = '[' then wrong .sequence (c :: rest)
    else if c = '{' then wrong .map (c :: rest)
    else .next .expectedValue (c :: rest)

/-- A text that `convert` makes into something. -/
def converted (expected : String) (convert : String → Except Cause α) : Reading α where
  ofValue
    | .string s => convert s
    | v => .error (.wrongType (.ofValue v) expected)
  ofText _ cs :=
    match skipSpace cs with
    | '"' :: rest => do
      let (s, rest) ← scanString rest
      let x ← (convert (String.ofList s)).mapError fun cause => Fault.here cause rest
      return (x, rest)
    | cs => .error (mismatch expected cs)

/-- A text. -/
def text : Reading String := converted "a string" .ok

/-- A truth value. -/
def flag : Reading Bool where
  ofValue
    | .bool b => .ok b
    | v => .error (.wrongType (.ofValue v) "a boolean")
  ofText _ cs :=
    match skipSpace cs with
    | 't' :: rest => (scanWord ['r', 'u', 'e'] rest).map fun rest => (true, rest)
    | 'f' :: rest => (scanWord ['a', 'l', 's', 'e'] rest).map fun rest => (false, rest)
    | cs => .error (mismatch "a boolean" cs)

/-- The integer of a number, if it lies between bounds. -/
def boundedInt (expected : String) (lower upper : Int) : Number → Except Cause Int
  | .whole w =>
    if lower ≤ w.val ∧ w.val ≤ upper then .ok w.val
    else .error (.wrongValue (.whole w.val) expected)
  | .float bits => .error (.wrongType (.float bits) expected)

/-- An integer between bounds. -/
def integer (expected : String) (lower upper : Int) : Reading Int where
  ofValue
    | .number n => boundedInt expected lower upper n
    | v => .error (.wrongType (.ofValue v) expected)
  ofText _ cs :=
    match skipSpace cs with
    | [] => .error (.here .endOfValue [])
    | c :: rest =>
      if c = '-' ∨ c.isDigit = true then do
        let (n, rest) ← scanNumber (c :: rest)
        let i ← (boundedInt expected lower upper n).mapError fun cause => Fault.here cause rest
        return (i, rest)
      else .error (mismatch expected (c :: rest))

/-! ## Any value -/

/-- Reads any value, with at most `depth` arrays and objects around each other. -/
def scanValue (depth : Nat) (cs : List Char) : Except Fault (Value × List Char) :=
  match skipSpace cs with
  | [] => .error (.here .endOfValue [])
  | c :: rest =>
    if c = 'n' then (scanWord ['u', 'l', 'l'] rest).map fun rest => (.null, rest)
    else if c = 't' then (scanWord ['r', 'u', 'e'] rest).map fun rest => (.bool true, rest)
    else if c = 'f' then (scanWord ['a', 'l', 's', 'e'] rest).map fun rest => (.bool false, rest)
    else if c = '-' ∨ c.isDigit = true then
      (scanNumber (c :: rest)).map fun p => (.number p.1, p.2)
    else if c = '"' then (scanString rest).map fun p => (.string (String.ofList p.1), p.2)
    else if c = '[' then
      match depth with
      | 0 => .error (.next .tooDeep (c :: rest))
      | d + 1 => (scanItems (scanValue d) rest).map fun p => (.array p.1, p.2)
    else if c = '{' then
      match depth with
      | 0 => .error (.next .tooDeep (c :: rest))
      | d + 1 =>
        let entry := fun (fields : List (String × Value)) (key : String) (cs : List Char) => do
          let rest ← scanColon cs
          let (v, rest) ← scanValue d rest
          return (Fields.put key v fields, rest)
        (scanEntries entry [] rest).map fun p => (.object p.1, p.2)
    else .error (.next .expectedValue (c :: rest))
termination_by structural depth

/-- Any value. -/
def any : Reading Value where
  ofValue := .ok
  ofText := scanValue

/-! ## Lists, tables and optional parts -/

/-- `null` for nothing. -/
def nullable (r : Reading α) : Reading (Option α) where
  ofValue
    | .null => .ok none
    | v => (r.ofValue v).map some
  ofText depth cs :=
    match skipSpace cs with
    | 'n' :: rest => (scanWord ['u', 'l', 'l'] rest).map fun rest => (none, rest)
    | cs => (r.ofText depth cs).map fun p => (some p.1, p.2)

/-- An array of things that are read alike. -/
def list (r : Reading α) : Reading (List α) where
  ofValue
    | .array items => items.mapM r.ofValue
    | v => .error (.wrongType (.ofValue v) "a sequence")
  ofText depth cs :=
    match skipSpace cs with
    | '[' :: rest =>
      match depth with
      | 0 => .error (.next .tooDeep ('[' :: rest))
      | d + 1 => scanItems (r.ofText d) rest
    | cs => .error (mismatch "a sequence" cs)

/-- An object with any keys. -/
def table : Reading (List (String × Value)) where
  ofValue
    | .object fields => .ok fields
    | v => .error (.wrongType (.ofValue v) "a map")
  ofText depth cs :=
    match skipSpace cs with
    | '{' :: rest =>
      match depth with
      | 0 => .error (.next .tooDeep ('{' :: rest))
      | d + 1 =>
        let entry := fun (fields : List (String × Value)) (key : String) (cs : List Char) => do
          let rest ← scanColon cs
          let (v, rest) ← scanValue d rest
          return (Fields.put key v fields, rest)
        scanEntries entry [] rest
    | cs => .error (mismatch "a map" cs)

/-! ## Choices -/

/-- The option of a name. -/
def optionNamed (options : List (String × α)) (name : String) : Except Cause α :=
  match options.lookup name with
  | some x => .ok x
  | none => .error (.unknownVariant name (options.map Prod.fst))

/-- Nothing but `null`. -/
def unit : Reading Unit where
  ofValue
    | .null => .ok ()
    | v => .error (.wrongType (.ofValue v) "unit")
  ofText _ cs :=
    match skipSpace cs with
    | 'n' :: rest => (scanWord ['u', 'l', 'l'] rest).map fun rest => ((), rest)
    | cs => .error (mismatch "unit" cs)

/-- The quote that begins the key of an object with one key. -/
def scanKeyStart (cs : List Char) : Except Fault (List Char) :=
  match skipSpace cs with
  | [] => .error (.here .endOfObject [])
  | c :: rest =>
    if c = '"' then .ok (c :: rest)
    else .error (.next (if c = '}' then .expectedValue else .keyNotString) (c :: rest))

/-- One of several names, or an object whose only key is the name and whose value is `null`. -/
def choice (options : List (String × α)) : Reading α where
  ofValue
    | .string s => optionNamed options s
    | .object [(name, v)] => do
      let x ← optionNamed options name
      unit.ofValue v
      return x
    | .object _ => .error (.wrongValue .map "map with a single key")
    | v => .error (.wrongType (.ofValue v) "string or map")
  ofText depth cs :=
    match skipSpace cs with
    | [] => .error (.here .endOfValue [])
    | c :: rest =>
      let name := converted "variant identifier" (optionNamed options)
      if c = '"' then name.ofText depth (c :: rest)
      else if c = '{' then
        match depth with
        | 0 => .error (.next .tooDeep (c :: rest))
        | d + 1 => do
          let rest ← scanKeyStart rest
          let (x, rest) ← name.ofText d rest
          let rest ← scanColon rest
          let (_, rest) ← unit.ofText d rest
          match skipSpace rest with
          | [] => throw (.here .endOfObject [])
          | c :: rest =>
            if c = '}' then return (x, rest) else throw (.here .expectedValue (c :: rest))
      else .error (.next .expectedValue (c :: rest))

/-! ## Records -/

end Reading

/-- A field of a record that is put together as a `σ`: its name, whether it has to be given, and how
its value changes what there is so far. -/
structure Slot (σ : Type) where
  name : String
  required : Bool
  reading : Reading (σ → σ)

namespace Slot
variable {α σ : Type}

/-- A field that may be left out. -/
def optional (name : String) (r : Reading α) (set : α → σ → σ) : Slot σ := ⟨name, false, r.map set⟩

/-- A field that has to be given. -/
def mandatory (name : String) (r : Reading α) (set : α → σ → σ) : Slot σ := ⟨name, true, r.map set⟩

end Slot

namespace Reading
variable {α σ : Type}

/-- What a message calls a record that has to have all its elements. -/
def recordOfLength (name : String) (n : Nat) : String :=
  "struct " ++ name ++ " with " ++ String.ofList (Nat.toDigits 10 n) ++
    (if n = 1 then " element" else " elements")

/-- The first field, in order, that has to be given and is not among those seen. -/
def missing? (slots : List (Slot σ)) (seen : List String) : Option String :=
  (slots.find? fun s => s.required && !seen.contains s.name).map Slot.name

/-! ### From a value -/

/-- Fills fields in order from the elements of an array; the elements that are left over are handed
back. `index` counts the fields before. -/
def fillInOrder (name : String) (total : Nat) :
    List (Slot σ) → Nat → List Value → σ → Except Cause (σ × List Value)
  | [], _, items, s => .ok (s, items)
  | slot :: slots, index, [], s =>
    if slot.required then .error (.wrongLength index (recordOfLength name total))
    else fillInOrder name total slots (index + 1) [] s
  | slot :: slots, index, v :: items, s => do
    let change ← slot.reading.ofValue v
    fillInOrder name total slots (index + 1) items (change s)

/-- Fills fields from the entries of an object; unknown keys are passed over. -/
def fillByName (slots : List (Slot σ)) :
    List (String × Value) → List String → σ → Except Cause (σ × List String)
  | [], seen, s => .ok (s, seen)
  | (key, v) :: rest, seen, s =>
    match slots.find? fun slot => slot.name == key with
    | none => fillByName slots rest seen s
    | some slot =>
      if seen.contains key then .error (.repeatedField key)
      else do
        let change ← slot.reading.ofValue v
        fillByName slots rest (key :: seen) (change s)

/-! ### From a text -/

/-- What is left once an object whose reading has failed for want of a place has been closed. -/
def closedObject (rest : List Char) : List Char :=
  match skipSpace rest with
  | '}' :: rest => rest
  | rest => rest

/-- Reads the end of an array from which no more elements are wanted. -/
def scanArrayEnd (cs : List Char) : Except Fault (List Char) :=
  match skipSpace cs with
  | [] => .error (.here .endOfList [])
  | c :: rest =>
    if c = ']' then .ok rest
    else if c = ',' then
      match skipSpace rest with
      | [] => .error (.here .trailingCharacters [])
      | d :: more =>
        .error (.next (if d = ']' then .trailingComma else .trailingCharacters) (d :: more))
    else .error (.next .trailingCharacters (c :: rest))

/-- Fills fields in order from the elements of an array that is being read, up to and with its
closing bracket. -/
def scanInOrder (name : String) (total depth : Nat) :
    List (Slot σ) → Nat → Bool → σ → List Char → Except Fault (σ × List Char)
  | [], _, _, s, cs => (scanArrayEnd cs).map fun rest => (s, rest)
  | slot :: slots, index, first, s, cs => do
    match ← nextItem first cs with
    | .done rest =>
      match (slot :: slots).findIdx? fun slot => slot.required with
      | some i => throw (.here (.wrongLength (index + i) (recordOfLength name total)) rest)
      | none => return (s, rest)
    | .more rest =>
      let (change, rest) ← slot.reading.ofText depth rest
      scanInOrder name total depth slots (index + 1) false (change s) rest

/-- Reads one entry of a record: its value goes into the field of that name, or is skipped. -/
def scanField (slots : List (Slot σ)) (depth : Nat) (state : σ × List String) (key : String)
    (cs : List Char) : Except Fault ((σ × List String) × List Char) :=
  match slots.find? fun slot => slot.name == key with
  | none => do
    let rest ← scanColon cs
    let rest ← skipValue rest
    return (state, rest)
  | some slot =>
    if state.2.contains key then .error (.here (.repeatedField key) (closedObject cs))
    else do
      let rest ← scanColon cs
      let (change, rest) ← slot.reading.ofText depth rest
      return ((change state.1, key :: state.2), rest)

/-- A record, put together from `start`. -/
def record (name : String) (slots : List (Slot σ)) (start : σ) : Reading σ where
  ofValue
    | .array items => do
      let (s, left) ← fillInOrder name slots.length slots 0 items start
      if left.isEmpty then return s
      else throw (.wrongLength items.length "fewer elements in array")
    | .object entries => do
      let (s, seen) ← fillByName slots entries [] start
      match missing? slots seen with
      | none => return s
      | some field => throw (.missingField field)
    | v => .error (.wrongType (.ofValue v) ("struct " ++ name))
  ofText depth cs :=
    match skipSpace cs with
    | [] => .error (.here .endOfValue [])
    | c :: rest =>
      if c = '[' then
        match depth with
        | 0 => .error (.next .tooDeep (c :: rest))
        | d + 1 => scanInOrder name slots.length d slots 0 true start rest
      else if c = '{' then
        match depth with
        | 0 => .error (.next .tooDeep (c :: rest))
        | d + 1 => do
          let ((s, seen), rest) ← scanEntries (scanField slots d) (start, []) rest
          match missing? slots seen with
          | none => return (s, rest)
          | some field => throw (.here (.missingField field) rest)
      else .error (mismatch ("struct " ++ name) (c :: rest))

end Reading

/-- Reads a document. -/
def Value.parse (text : String) : Except Refusal Value := Reading.any.parse text

end IntentSelect.Json
