import IntentSelect.Pattern.Bracket
import IntentSelect.Text.CharacterClass

/-!
# Reading patterns

`Term.ofText?` takes a pattern apart.  Alternatives are sequences of items with `|` between them; an
item is a sign, a class, a group or a list of flags, and a repetition applies to the item before it.
Flags that a group sets, alone or for what follows, end with it; of these only `spaced` matters for
reading.
-/
namespace IntentSelect.Pattern

/-- Where the reader is: what is left to read, whether white space is passed over, and the names of
groups so far. -/
structure Cursor where
  rest : List Char
  spaced : Bool
  names : List (List Char)

/-! ## Repetitions -/

/-- The number that digits denote, which has to fit in 32 bits. -/
def countOf (digits : List Char) : Except Problem Nat :=
  if digits.isEmpty then .error .noCount
  else
    let n := digits.foldl (fun acc c => acc * 10 + (c.toNat - '0'.toNat)) 0
    if n < 0x100000000 then .ok n else .error .countTooLarge

/-- Reads the digits of a count, with white space around them. -/
def readCountDigits (spaced : Bool) (cs : List Char) : List Char × List Char :=
  let (digits, cs) := readDigits spaced false (Text.dropBlank (skip spaced cs))
  (digits, Text.dropBlank cs)

/-- Reads counts up to the closing brace: the least and the greatest number of times. -/
def readCounts (spaced : Bool) (cs : List Char) :
    Except Problem (Nat × Option Nat × List Char) := do
  let (digits, cs) := readCountDigits spaced cs
  let least ← countOf digits
  match cs with
  | '}' :: cs => return (least, some least, cs)
  | ',' :: cs =>
    match skip spaced cs with
    | '}' :: cs => return (least, none, cs)
    | cs =>
      let (digits, cs) := readCountDigits spaced cs
      let most ← countOf digits
      match cs with
      | '}' :: cs => if least ≤ most then return (least, some most, cs) else throw .countsReversed
      | _ => throw .openCount
  | _ => throw .openCount

/-- Whether a repetition is followed by the sign that makes it lazy, and what follows both. -/
def readLazy : List Char → Bool × List Char
  | '?' :: cs => (true, cs)
  | cs => (false, cs)

/-- Repeats the latest item. -/
def repeatLatest (least : Nat) (most : Option Nat) (lazy : Bool) :
    List Term → Except Problem (List Term)
  | [] | .flags _ :: _ => .error .nothingToRepeat
  | t :: items => .ok (.repeated t least most lazy :: items)

/-! ## Groups -/

/-- What an opening parenthesis opens. -/
inductive Opening where
  | group
  | scope (changes : List FlagChange)
  /-- No group at all: flags for what follows. -/
  | flags (changes : List FlagChange)

def flag? (c : Char) : Option Flag :=
  match c with
  | 'i' => some .ignoreCase
  | 'm' => some .manyLines
  | 's' => some .dotAll
  | 'U' => some .swapGreed
  | 'u' => some .unicode
  | 'R' => some .crlf
  | 'x' => some .spaced
  | _ => none

/-- Reads flags up to a `:` or a `)`, which is handed back. `seen` are those before, `negated` is
true after a `-`, `dangling` directly after it. -/
def readFlags (seen : List Flag) (negated dangling : Bool) :
    List Char → Except Problem (List FlagChange × Char × List Char)
  | [] => .error .openGroup
  | c :: cs =>
    if c = ':' ∨ c = ')' then
      if dangling then .error .danglingMinus else .ok ([], c, cs)
    else if c = '-' then
      if negated then .error .repeatedFlag else readFlags seen true true cs
    else
      match flag? c with
      | none => .error .unknownFlag
      | some f =>
        if seen.contains f then .error .repeatedFlag
        else do
          let (changes, close, cs) ← readFlags (f :: seen) negated false cs
          return (⟨f, !negated⟩ :: changes, close, cs)

/-- True for a character of a group's name. -/
def isNameChar (first : Bool) (c : Char) : Bool :=
  c == '_' || Text.alphabeticSet.contains c ||
    (!first && (c == '.' || c == '[' || c == ']' || Text.numericSet.contains c))

/-- Reads a name up to the closing sign. -/
def readName (first : Bool) : List Char → Except Problem (List Char × List Char)
  | [] => .error .groupName
  | c :: cs =>
    if c = '>' then .ok ([], cs)
    else if isNameChar first c then do
      let (name, cs) ← readName false cs
      return (c :: name, cs)
    else .error .groupName

/-- Reads a name and notes it. -/
def openNamed (p : Cursor) (cs : List Char) : Except Problem (Opening × Cursor) := do
  let (name, cs) ← readName true cs
  if name.isEmpty then throw .groupName
  if p.names.contains name then throw .repeatedName
  return (.group, { p with rest := cs, names := name :: p.names })

/-- Reads what follows an opening parenthesis. -/
def readOpening (p : Cursor) : Except Problem (Opening × Cursor) :=
  match skip p.spaced p.rest with
  | '?' :: '=' :: _ | '?' :: '!' :: _ | '?' :: '<' :: '=' :: _ | '?' :: '<' :: '!' :: _ =>
    .error .lookAround
  | '?' :: 'P' :: '<' :: cs | '?' :: '<' :: cs => openNamed p cs
  | '?' :: cs => do
    let (changes, close, cs) ← readFlags [] false false cs
    if close = ':' then return (.scope changes, { p with rest := cs })
    if changes.isEmpty then throw .noFlags
    return (.flags changes, { p with rest := cs })
  | cs => .ok (.group, { p with rest := cs })

/-- Whether white space is passed over after changes of flags. -/
def spacedAfter (before : Bool) (changes : List FlagChange) : Bool :=
  match changes.find? fun c => c.flag == .spaced with
  | some c => c.on
  | none => before

/-! ## Sequences and alternatives -/

mutual
/-- Reads alternatives up to a `)` or the end. -/
def readAlternatives (fuel : Nat) (p : Cursor) : Except Problem (Term × Cursor) :=
  match fuel with
  | 0 => .error .openGroup
  | n + 1 => do
    let (first, p) ← readSequence n [] p
    match p.rest with
    | '|' :: cs =>
      let (others, p) ← readAlternatives n { p with rest := cs }
      return (.alt first others, p)
    | _ => return (first, p)
termination_by structural fuel

/-- Reads items up to a `|`, a `)` or the end. `items` are those before, the latest first. -/
def readSequence (fuel : Nat) (items : List Term) (p : Cursor) :
    Except Problem (Term × Cursor) :=
  match fuel with
  | 0 => .error .openGroup
  | n + 1 =>
    let more := fun (items : List Term) (cs : List Char) =>
      readSequence n items { p with rest := cs }
    let again := fun (least : Nat) (most : Option Nat) (cs : List Char) => do
      let (lazy, cs) := readLazy cs
      more (← repeatLatest least most lazy items) cs
    let rest := skip p.spaced p.rest
    match rest with
    | [] | '|' :: _ | ')' :: _ => .ok (.inOrder items.reverse, { p with rest })
    | '(' :: cs => do
      let (opening, q) ← readOpening { p with rest := cs }
      match opening with
      | .flags changes =>
        readSequence n (.flags changes :: items)
          { q with spaced := spacedAfter p.spaced changes }
      | .scope changes =>
        let (inner, q) ← readAlternatives n { q with spaced := spacedAfter p.spaced changes }
        match q.rest with
        | ')' :: cs =>
          readSequence n (.scope changes inner :: items) { q with rest := cs, spaced := p.spaced }
        | _ => throw .openGroup
      | .group =>
        let (inner, q) ← readAlternatives n q
        match q.rest with
        | ')' :: cs =>
          readSequence n (.group inner :: items) { q with rest := cs, spaced := p.spaced }
        | _ => throw .openGroup
    | '[' :: cs => do
      let (negated, inner, cs) ← readBracket (2 * cs.length + 2) p.spaced cs
      more (.bracketed negated inner :: items) cs
    | '?' :: cs => again 0 (some 1) cs
    | '*' :: cs => again 0 none cs
    | '+' :: cs => again 1 none cs
    | '{' :: cs => do
      let (least, most, cs) ← readCounts p.spaced cs
      again least most (skip p.spaced cs)
    | '\\' :: cs => do
      let (t, cs) ← readEscape p.spaced cs
      more (t :: items) cs
    | '.' :: cs => more (.dot :: items) cs
    | '^' :: cs => more (.assertion .lineStart :: items) cs
    | '$' :: cs => more (.assertion .lineEnd :: items) cs
    | c :: cs => more (.literal { char := c } :: items) cs
termination_by structural fuel
end

/-- Takes a pattern apart. -/
def Term.ofText? (text : String) : Except Problem Term := do
  let cs := text.toList
  let (t, p) ← readAlternatives (2 * cs.length + 2) ⟨cs, false, []⟩
  if !p.rest.isEmpty then throw .strayParenthesis
  if t.nesting .none ≤ nestLimit then return t else throw .nestedTooDeep

end IntentSelect.Pattern
