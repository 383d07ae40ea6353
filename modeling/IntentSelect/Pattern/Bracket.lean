import IntentSelect.Pattern.Escape

/-!
# Classes in brackets

A class in brackets lists characters, ranges, escapes, named classes such as `[:alpha:]` and classes
in brackets of their own; `&&`, `--` and `~~` combine what stands to their left with what follows up
to the next such sign.  A `-` or a `]` at the start stands for itself.
-/
namespace IntentSelect.Pattern

/-! ## Named classes -/

/-- The classes that may be named between `[:` and `:]`. -/
def namedClasses : List (String × List (Char × Char)) := [
  ("alnum", [('0', '9'), ('A', 'Z'), ('a', 'z')]),
  ("alpha", [('A', 'Z'), ('a', 'z')]),
  ("ascii", [('\x00', '\x7f')]),
  ("blank", [('\t', '\t'), (' ', ' ')]),
  ("cntrl", [('\x00', '\x1f'), ('\x7f', '\x7f')]),
  ("digit", [('0', '9')]),
  ("graph", [('!', '~')]),
  ("lower", [('a', 'z')]),
  ("print", [(' ', '~')]),
  ("punct", [('!', '/'), (':', '@'), ('[', '\x60'), ('\x7b', '~')]),
  ("space", [('\t', '\r'), (' ', ' ')]),
  ("upper", [('A', 'Z')]),
  ("word", [('0', '9'), ('A', 'Z'), ('_', '_'), ('a', 'z')]),
  ("xdigit", [('0', '9'), ('A', 'F'), ('a', 'f')])]

/-- The named class whose opening bracket has just been read, and what follows it. -/
def namedClass? : List Char → Option (ClassTerm × List Char)
  | ':' :: cs =>
    let negated := cs.head? == some '^'
    let cs := if negated then cs.drop 1 else cs
    let name := cs.takeWhile (· != ':')
    match cs.drop name.length with
    | ':' :: ']' :: rest =>
      (namedClasses.lookup (String.ofList name)).map fun ranges => (.named ranges negated, rest)
    | _ => none
  | _ => none

/-! ## Members -/

/-- Reads a character or an escape. -/
def readMember (spaced : Bool) : List Char → Except Problem (Term × List Char)
  | [] => .error .openClass
  | '\\' :: cs => readEscape spaced cs
  | c :: cs => .ok (.literal { char := c }, cs)

/-- A term as a member of a class. -/
def Term.member : Term → Except Problem ClassTerm
  | .literal l => .ok (.literal l)
  | .shorthand s negated => .ok (.shorthand s negated)
  | .property q negated => .ok (.property q negated)
  | _ => .error .notInClass

/-- The sign that decides what a `-` before it means.  Where the pattern is spaced, white space does
not count, and neither does one `#`. -/
def signAfterDash (spaced : Bool) (cs : List Char) : Option Char :=
  if spaced then
    match Text.dropBlank cs with
    | '#' :: cs => (Text.dropBlank cs).head?
    | cs => cs.head?
  else cs.head?

/-- The range between two members. -/
def rangeOf : Term → Term → Except Problem ClassTerm
  | .literal a, .literal b => if a.char ≤ b.char then .ok (.range a b) else .error .rangeEnds
  | _, _ => .error .rangeEnds

/-- Reads a member, or a range from one to another. -/
def readRange (spaced : Bool) (cs : List Char) : Except Problem (ClassTerm × List Char) := do
  let (first, cs) ← readMember spaced cs
  match skip spaced cs with
  | [] => throw .openClass
  | '-' :: cs =>
    let sign := signAfterDash spaced cs
    if sign = some ']' ∨ sign = some '-' then return (← first.member, '-' :: cs)
    else
      let (last, cs) ← readMember spaced (skip spaced cs)
      return (← rangeOf first last, cs)
  | cs => return (← first.member, cs)

/-! ## Brackets -/

/-- Reads the dashes that stand for themselves because they come first. -/
def leadingDashes (spaced : Bool) : Nat → List Char → List ClassTerm × List Char
  | 0, cs => ([], cs)
  | n + 1, cs =>
    match skip spaced cs with
    | '-' :: cs =>
      let (more, cs) := leadingDashes spaced n cs
      (.literal { char := '-' } :: more, cs)
    | cs => ([], cs)

/-- Reads the start of a class: whether it is negated, and the members that stand for themselves
only there. -/
def readBracketStart (spaced : Bool) (cs : List Char) : Bool × List ClassTerm × List Char :=
  let cs := skip spaced cs
  let negated := cs.head? == some '^'
  let cs := if negated then skip spaced (cs.drop 1) else cs
  match leadingDashes spaced cs.length cs with
  | ([], ']' :: cs) => (negated, [.literal { char := ']' }], cs)
  | (dashes, cs) => (negated, dashes, cs)

mutual
/-- Reads a class whose opening bracket has been read: whether it is negated, and what it holds. -/
def readBracket (fuel : Nat) (spaced : Bool) (cs : List Char) :
    Except Problem (Bool × ClassTerm × List Char) :=
  match fuel with
  | 0 => .error .openClass
  | n + 1 => do
    let (negated, members, cs) := readBracketStart spaced cs
    let (inner, cs) ← readMembers n spaced id members.reverse cs
    return (negated, inner, cs)
termination_by structural fuel

/-- Reads up to the closing bracket. `members` are those since the last operator, the latest first,
and `combine` applies the operators before them. -/
def readMembers (fuel : Nat) (spaced : Bool) (combine : ClassTerm → ClassTerm)
    (members : List ClassTerm) (cs : List Char) : Except Problem (ClassTerm × List Char) :=
  match fuel with
  | 0 => .error .openClass
  | n + 1 =>
    let soFar := combine (.together members.reverse)
    match skip spaced cs with
    | [] => .error .openClass
    | ']' :: cs => .ok (soFar, cs)
    | '&' :: '&' :: cs => readMembers n spaced (.op .inter soFar) [] cs
    | '-' :: '-' :: cs => readMembers n spaced (.op .difference soFar) [] cs
    | '~' :: '~' :: cs => readMembers n spaced (.op .symmetricDifference soFar) [] cs
    | '[' :: cs =>
      match namedClass? cs with
      | some (member, cs) => readMembers n spaced combine (member :: members) cs
      | none => do
        let (negated, inner, cs) ← readBracket n spaced cs
        readMembers n spaced combine (.bracketed negated inner :: members) cs
    | cs => do
      let (member, cs) ← readRange spaced cs
      readMembers n spaced combine (member :: members) cs
termination_by structural fuel
end

end IntentSelect.Pattern
