import IntentSelect.Pattern.Problem
import IntentSelect.Pattern.Spacing
import IntentSelect.Pattern.Term

/-!
# Escapes in patterns

What may follow a backslash: a code point in hexadecimal, a class by property or by one letter, a
control character by one letter, a mark for a place, or a sign of punctuation that stands for
itself.
-/
namespace IntentSelect.Pattern

/-! ## Code points -/

/-- The value of a hexadecimal digit. -/
def hexValue? (c : Char) : Option Nat :=
  if '0' ≤ c ∧ c ≤ '9' then some (c.toNat - '0'.toNat)
  else if 'a' ≤ c ∧ c ≤ 'f' then some (c.toNat - 'a'.toNat + 10)
  else if 'A' ≤ c ∧ c ≤ 'F' then some (c.toNat - 'A'.toNat + 10)
  else none

/-- The number that hexadecimal digits denote. -/
def hexNumber? (acc : Nat) : List Char → Option Nat
  | [] => some acc
  | c :: cs => (hexValue? c).bind fun d => hexNumber? (acc * 16 + d) cs

/-- The character that hexadecimal digits denote. -/
def hexCharacter (digits : List Char) : Except Problem Char :=
  match hexNumber? 0 digits with
  | none => .error .hexDigit
  | some n =>
    if h : n.isValidChar then .ok (Char.ofNatAux n h) else .error .notCharacter

/-- How many digits follow an `x`, a `u` or a `U`. -/
def hexLength (c : Char) : Nat := if c = 'x' then 2 else if c = 'u' then 4 else 8

/-- Reads the digits after an `x`, a `u` or a `U`, as many as the letter says or between braces. -/
def readHex (spaced : Bool) (letter : Char) (cs : List Char) :
    Except Problem (Term × List Char) :=
  match skip spaced cs with
  | [] => .error .openEscape
  | '{' :: cs =>
    match readUpTo '}' spaced false cs with
    | none => .error .openEscape
    | some ([], _) => .error .noHexDigits
    | some (digits, cs) => do return (.literal { char := ← hexCharacter digits }, cs)
  | cs =>
    match readSigns spaced (hexLength letter) cs with
    | none => .error .openEscape
    | some (digits, cs) => do
      return (.literal { char := ← hexCharacter digits, asByte := letter == 'x' }, cs)

/-! ## Classes by property -/

/-- The text before and after the first place where `mark` stands. -/
def cutAt? (mark : List Char) : List Char → Option (List Char × List Char)
  | [] => if mark.isEmpty then some ([], []) else none
  | c :: cs =>
    if mark.isPrefixOf (c :: cs) then some ([], (c :: cs).drop mark.length)
    else (cutAt? mark cs).map fun p => (c :: p.1, p.2)

/-- The query between the braces of a class by property: a name, or a property and a value.  True if
the sign between the two says that the value is another. -/
def propertyQuery (name : List Char) : PropertyQuery × Bool :=
  let value := fun (p : List Char × List Char) =>
    PropertyQuery.value (String.ofList p.1) (String.ofList p.2)
  match cutAt? ['!', '='] name with
  | some p => (value p, true)
  | none =>
    match (cutAt? [':'] name).or (cutAt? ['='] name) with
    | some p => (value p, false)
    | none => (.named (String.ofList name), false)

/-- Reads what follows a `p` or a `P`: a name of one letter, or a query between braces. -/
def readProperty (spaced negated : Bool) (cs : List Char) : Except Problem (Term × List Char) :=
  match skip spaced cs with
  | [] => .error .openEscape
  | '{' :: cs =>
    match readUpTo '}' spaced false cs with
    | none => .error .openEscape
    | some (name, cs) =>
      let (query, unequal) := propertyQuery name
      .ok (.property query (negated != unequal), cs)
  | '\\' :: _ => .error .unknownProperty
  | c :: cs => .ok (.property (.named (String.ofList [c])) negated, cs)

/-! ## Marks for places -/

/-- The characters of the names of marks. -/
def isMarkLetter (c : Char) : Bool := c.isAlpha || c == '-'

/-- Reads what follows a `b`: a name between braces, unless what they hold looks like a count. -/
def readWordMark (spaced : Bool) (cs : List Char) : Except Problem (Term × List Char) :=
  let edge : Except Problem (Term × List Char) := .ok (.assertion (.word .edge), cs)
  match cs with
  | '{' :: inner =>
    match skip spaced inner with
    | [] => .error .openCount
    | c :: _ =>
      if isMarkLetter c then
        match readUpTo '}' spaced false inner with
        | none => .error .unknownWordMark
        | some (name, cs) =>
          match String.ofList name with
          | "start" => .ok (.assertion (.word .start), cs)
          | "end" => .ok (.assertion (.word .finish), cs)
          | "start-half" => .ok (.assertion (.word .startHalf), cs)
          | "end-half" => .ok (.assertion (.word .finishHalf), cs)
          | _ => .error .unknownWordMark
      else edge
  | _ => edge

/-! ## Escapes -/

/-- Signs of punctuation and controls, which stand for themselves after a backslash. -/
def isEscapable (c : Char) : Bool :=
  decide (c.toNat < 0x80) && !c.isAlphanum && c != '<' && c != '>'

/-- The class that a letter abbreviates, and whether its complement is meant. -/
def shorthand? (c : Char) : Option (Shorthand × Bool) :=
  match c with
  | 'd' => some (.digit, false)
  | 'D' => some (.digit, true)
  | 's' => some (.space, false)
  | 'S' => some (.space, true)
  | 'w' => some (.word, false)
  | 'W' => some (.word, true)
  | _ => none

/-- What one sign after a backslash stands for, if it stands for something on its own. -/
def simpleEscape? (c : Char) : Option Term :=
  match c with
  | 'a' => some (.literal { char := '\x07' })
  | 'f' => some (.literal { char := '\x0c' })
  | 't' => some (.literal { char := '\t' })
  | 'n' => some (.literal { char := '\n' })
  | 'r' => some (.literal { char := '\r' })
  | 'v' => some (.literal { char := '\x0b' })
  | 'A' => some (.assertion .textStart)
  | 'z' => some (.assertion .textEnd)
  | 'B' => some (.assertion (.word .noEdge))
  | '<' => some (.assertion (.word .start))
  | '>' => some (.assertion (.word .finish))
  | c =>
    match shorthand? c with
    | some (s, negated) => some (.shorthand s negated)
    | none => if isEscapable c then some (.literal { char := c }) else none

/-- Reads what follows a backslash. -/
def readEscape (spaced : Bool) : List Char → Except Problem (Term × List Char)
  | [] => .error .openEscape
  | c :: cs =>
    if c.isDigit then .error .backReference
    else if c = 'x' ∨ c = 'u' ∨ c = 'U' then readHex spaced c cs
    else if c = 'p' ∨ c = 'P' then readProperty spaced (c == 'P') cs
    else if c = 'b' then readWordMark spaced cs
    else
      match simpleEscape? c with
      | some t => .ok (t, cs)
      | none => .error .unknownEscape

end IntentSelect.Pattern
