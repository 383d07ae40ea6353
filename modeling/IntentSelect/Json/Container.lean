import IntentSelect.Json.Scanner

/-!
# Reading arrays and objects

The loops over the elements of an array and the entries of an object, for any way of reading an
element or a value.  They are bounded by the number of characters that are left: every round
consumes at least one, so the bound is never reached.  `scanItems` and `scanEntries` read, with the
faults of a document that is decoded; `skipItems` and `skipEntries` only skip.
-/
namespace IntentSelect.Json

/-- How many arrays and objects may lie within each other in a text. -/
def depthLimit : Nat := 127

/-- Reads the colon between a key and its value. -/
def scanColon (cs : List Char) : Except Fault (List Char) :=
  match skipSpace cs with
  | [] => .error (.here .endOfObject [])
  | c :: rest => if c = ':' then .ok rest else .error (.next .expectedColon (c :: rest))

/-- What a loop over a container finds before a round: the end, or what the round begins with. -/
inductive Round where
  | done (rest : List Char)
  | more (rest : List Char)

/-- Looks for the next element of an array. -/
def nextItem (first : Bool) (cs : List Char) : Except Fault Round :=
  match skipSpace cs with
  | [] => .error (.here .endOfList [])
  | c :: rest =>
    if c = ']' then .ok (.done rest)
    else if first then .ok (.more (c :: rest))
    else if c = ',' then
      match skipSpace rest with
      | [] => .error (.here .endOfValue [])
      | d :: rest' =>
        if d = ']' then .error (.next .trailingComma (d :: rest')) else .ok (.more (d :: rest'))
    else .error (.next .expectedListEnd (c :: rest))

/-- Looks for the next key of an object; a round begins after the opening quote of the key. -/
def nextKey (first : Bool) (cs : List Char) : Except Fault Round :=
  match skipSpace cs with
  | [] => .error (.here .endOfObject [])
  | c :: rest =>
    if c = '}' then .ok (.done rest)
    else if first then
      if c = '"' then .ok (.more rest) else .error (.next .keyNotString (c :: rest))
    else if c = ',' then
      match skipSpace rest with
      | [] => .error (.here .endOfValue [])
      | d :: rest' =>
        if d = '"' then .ok (.more rest')
        else if d = '}' then .error (.next .trailingComma (d :: rest'))
        else .error (.next .keyNotString (d :: rest'))
    else .error (.next .expectedObjectEnd (c :: rest))

section
variable {α σ : Type}

/-- Reads the elements of an array up to and with its closing bracket. -/
def scanItemsWithin (element : List Char → Except Fault (α × List Char)) :
    (bound : Nat) → (first : Bool) → List Char → Except Fault (List α × List Char)
  | 0, _, cs => .error (.here .endOfList cs)
  | n + 1, first, cs => do
    match ← nextItem first cs with
    | .done rest => return ([], rest)
    | .more rest =>
      let (x, rest) ← element rest
      let (xs, rest) ← scanItemsWithin element n false rest
      return (x :: xs, rest)

/-- Reads the elements of an array after its opening bracket. -/
def scanItems (element : List Char → Except Fault (α × List Char)) (cs : List Char) :
    Except Fault (List α × List Char) :=
  scanItemsWithin element (cs.length + 1) true cs

/-- Reads the entries of an object up to and with its closing brace, folding over a state. -/
def scanEntriesWithin (entry : σ → String → List Char → Except Fault (σ × List Char)) :
    (bound : Nat) → (first : Bool) → σ → List Char → Except Fault (σ × List Char)
  | 0, _, _, cs => .error (.here .endOfObject cs)
  | n + 1, first, s, cs => do
    match ← nextKey first cs with
    | .done rest => return (s, rest)
    | .more rest =>
      let (key, rest) ← scanString rest
      let (s, rest) ← entry s (String.ofList key) rest
      scanEntriesWithin entry n false s rest

/-- Reads the entries of an object after its opening brace. -/
def scanEntries (entry : σ → String → List Char → Except Fault (σ × List Char)) (start : σ)
    (cs : List Char) : Except Fault (σ × List Char) :=
  scanEntriesWithin entry (cs.length + 1) true start cs

end

/-! ## Skipping

A value that nobody asked for is skipped whatever its depth.  The bound counts rounds, those of
inner values included.  A bracket costs two, one for the value that it begins and one for what it
encloses, and so does an element, one for the loop and one for its value; so two rounds for every
character that is left, and two more, are always enough.
-/

mutual
/-- Skips one value. -/
def skipValueWithin (bound : Nat) (cs : List Char) : Except Fault (List Char) :=
  match bound with
  | 0 => .error (.here .endOfValue cs)
  | n + 1 =>
    match skipSpace cs with
    | [] => .error (.here .endOfValue [])
    | c :: rest =>
      if c = 'n' then scanWord ['u', 'l', 'l'] rest
      else if c = 't' then scanWord ['r', 'u', 'e'] rest
      else if c = 'f' then scanWord ['a', 'l', 's', 'e'] rest
      else if c = '-' ∨ c.isDigit = true then skipNumber (c :: rest)
      else if c = '"' then skipString rest
      else if c = '[' then skipItemsWithin n true rest
      else if c = '{' then skipEntriesWithin n true rest
      else .error (.next .expectedValue (c :: rest))
termination_by structural bound

/-- Skips the elements of an array and its closing bracket. -/
def skipItemsWithin (bound : Nat) (first : Bool) (cs : List Char) : Except Fault (List Char) :=
  match bound with
  | 0 => .error (.here .endOfList cs)
  | n + 1 =>
    match skipSpace cs with
    | [] => .error (.here .endOfList [])
    | c :: rest =>
      if c = ']' then .ok rest
      else if first then do
        let rest ← skipValueWithin n (c :: rest)
        skipItemsWithin n false rest
      else if c = ',' then do
        let rest ← skipValueWithin n rest
        skipItemsWithin n false rest
      else .error (.next .expectedListEnd (c :: rest))
termination_by structural bound

/-- Skips the entries of an object and its closing brace. -/
def skipEntriesWithin (bound : Nat) (first : Bool) (cs : List Char) : Except Fault (List Char) :=
  match bound with
  | 0 => .error (.here .endOfObject cs)
  | n + 1 =>
    match skipSpace cs with
    | [] => .error (.here .endOfObject [])
    | c :: rest =>
      if c = '}' then .ok rest
      else if first = false ∧ c ≠ ',' then .error (.next .expectedObjectEnd (c :: rest))
      else
        match (if first then c :: rest else skipSpace rest) with
        | [] => .error (.here .endOfObject [])
        | d :: more =>
          if d = '"' then do
            let rest ← skipString more
            let rest ← scanColon rest
            let rest ← skipValueWithin n rest
            skipEntriesWithin n false rest
          else .error (.next .keyNotString (d :: more))
termination_by structural bound
end

/-- Skips one value. -/
def skipValue (cs : List Char) : Except Fault (List Char) := skipValueWithin (2 * cs.length + 2) cs

end IntentSelect.Json
