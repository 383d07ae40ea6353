import IntentSelect.Pattern.Problem
import IntentSelect.Pattern.Regular
import IntentSelect.Unicode.Folding
import IntentSelect.Unicode.Lookup

/-!
# What patterns mean

Flags decide what the parts of a pattern stand for.  `Term.alternatives` works through a term from
left to right with the flags that hold at each place: a list of flags holds to the end of the group
around it, also in later alternatives, and the flags of a group hold inside it.

With the flag `unicode` off, classes are sets of single bytes.  A pattern is matched against text,
so what could match a byte that is no character is refused; that is so for every complement.
-/
namespace IntentSelect.Pattern

open Unicode

/-! ## Flags -/

/-- The flags that hold at a place. -/
structure Flags where
  ignoreCase : Bool := false
  manyLines : Bool := false
  dotAll : Bool := false
  crlf : Bool := false
  swapGreed : Bool := false
  unicode : Bool := true
deriving DecidableEq, Repr

namespace Flags

/-- Switches a flag; the one that only bears on reading is passed over. -/
def switch (f : Flags) (c : FlagChange) : Flags :=
  match c.flag with
  | .ignoreCase => { f with ignoreCase := c.on }
  | .manyLines => { f with manyLines := c.on }
  | .dotAll => { f with dotAll := c.on }
  | .crlf => { f with crlf := c.on }
  | .swapGreed => { f with swapGreed := c.on }
  | .unicode => { f with unicode := c.on }
  | .spaced => f

def switchAll (f : Flags) (changes : List FlagChange) : Flags := changes.foldl switch f

end Flags

/-! ## Sets of characters -/

/-- The set of the characters in ranges. -/
def setOfRanges (ranges : List (Char × Char)) : CharSet :=
  CharSet.unions (ranges.map fun r => CharSet.range r.1 r.2)

/-- What a word is made of where only ASCII counts. -/
def asciiWordSet : CharSet := setOfRanges [('0', '9'), ('A', 'Z'), ('_', '_'), ('a', 'z')]

/-- The set together with the other case of the ASCII letters in it. -/
def closeUnderAsciiCase (s : CharSet) : CharSet :=
  let moved (r : Char × Char) (up : Bool) : List Span :=
    (s.inter (CharSet.range r.1 r.2)).spans.map fun t =>
      if up then ⟨t.first + 32, t.last + 32⟩ else ⟨t.first - 32, t.last - 32⟩
  CharSet.ofSpans (s.spans ++ moved ('A', 'Z') true ++ moved ('a', 'z') false)

/-- The set that a letter abbreviates. -/
def Shorthand.set (unicode : Bool) : Shorthand → CharSet
  | .digit => if unicode then digitSet else CharSet.range '0' '9'
  | .space => if unicode then spaceSet else setOfRanges [('\t', '\r'), (' ', ' ')]
  | .word => if unicode then wordSet else asciiWordSet

/-- The set that a property stands for. -/
def PropertyQuery.set? : PropertyQuery → Option CharSet
  | .named name => setNamed? name
  | .value property text => setOfValue? property text

/-- How two classes are combined. -/
def ClassOp.apply : ClassOp → CharSet → CharSet → CharSet
  | .inter => CharSet.inter
  | .difference => CharSet.difference
  | .symmetricDifference => CharSet.symmetricDifference

namespace Flags

/-- Closes a set under case, where case is ignored. -/
def fold (f : Flags) (s : CharSet) : CharSet :=
  if f.ignoreCase then
    if f.unicode then s.closeUnderFolding else closeUnderAsciiCase s
  else s

/-- The set or its complement. -/
def negateIf (f : Flags) (negated : Bool) (s : CharSet) : Except Problem CharSet :=
  if negated then
    if f.unicode then .ok s.complement else .error .notText
  else .ok s

/-- The characters with a property. -/
def propertySet (f : Flags) (q : PropertyQuery) (negated : Bool) : Except Problem CharSet :=
  if f.unicode then
    match q.set? with
    | some s => f.negateIf negated (f.fold s)
    | none => .error .unknownProperty
  else .error .notText

/-- What `.` stands for. -/
def dotSet (f : Flags) : Except Problem CharSet :=
  if f.unicode then
    if f.dotAll then .ok CharSet.all
    else if f.crlf then .ok (CharSet.ofChars ['\n', '\r']).complement
    else .ok (CharSet.ofChar '\n').complement
  else .error .notText

/-- The character of a literal in a class. -/
def classChar (f : Flags) (l : Literal) : Except Problem Char :=
  if f.unicode || decide (l.char.toNat < 0x80) then .ok l.char else .error .notText

/-- The set that a literal outside classes stands for. -/
def literalSet (f : Flags) (l : Literal) : Except Problem CharSet :=
  if !f.unicode && l.asByte && decide (0x80 ≤ l.char.toNat) then .error .notText
  else .ok (f.fold (CharSet.ofChar l.char))

/-- The place that an assertion marks. -/
def look (f : Flags) : Assertion → Look
  | .lineStart => if f.manyLines then .lineStart f.crlf else .textStart
  | .lineEnd => if f.manyLines then .lineEnd f.crlf else .textEnd
  | .textStart => .textStart
  | .textEnd => .textEnd
  | .word b => .word b (!f.unicode)

end Flags

/-- The characters of a class. -/
def ClassTerm.set (f : Flags) : ClassTerm → Except Problem CharSet
  | .empty => .ok CharSet.empty
  | .literal l => do return CharSet.ofChar (← f.classChar l)
  | .range first last => do return CharSet.range (← f.classChar first) (← f.classChar last)
  | .named ranges negated => f.negateIf negated (f.fold (setOfRanges ranges))
  | .property q negated => f.propertySet q negated
  | .shorthand s negated => f.negateIf negated (s.set f.unicode)
  | .bracketed negated inner => do f.negateIf negated (f.fold (← inner.set f))
  | .union a b => do return (← a.set f).union (← b.set f)
  | .op o a b => do return o.apply (f.fold (← a.set f)) (f.fold (← b.set f))

/-! ## Terms -/

/-- An expression that takes up one character of a set. -/
def oneOf (s : CharSet) : Regular Atom := .atom (.char s)

/-- The regular expressions of the alternatives of a term, which is one if the term is no choice,
and the flags that hold after it. -/
def Term.alternatives (f : Flags) : Term → Except Problem (List (Regular Atom) × Flags)
  | .empty => .ok ([.empty], f)
  | .literal l => do return ([oneOf (← f.literalSet l)], f)
  | .dot => do return ([oneOf (← f.dotSet)], f)
  | .assertion a => .ok ([.atom (.look (f.look a))], f)
  | .property q negated => do return ([oneOf (← f.propertySet q negated)], f)
  | .shorthand s negated => do return ([oneOf (← f.negateIf negated (s.set f.unicode))], f)
  | .bracketed negated inner => do
    return ([oneOf (← f.negateIf negated (f.fold (← inner.set f)))], f)
  | .repeated inner least most lazy => do
    let (rs, f) ← inner.alternatives f
    return ([(Regular.choice rs).repeating least most (lazy == f.swapGreed)], f)
  | .group inner => do
    let (rs, _) ← inner.alternatives f
    return ([.group (Regular.choice rs)], f)
  | .scope changes inner => do
    let (rs, _) ← inner.alternatives (f.switchAll changes)
    return ([Regular.choice rs], f)
  | .flags changes => .ok ([.empty], f.switchAll changes)
  | .seq a b => do
    let (rs, f) ← a.alternatives f
    let (ss, f) ← b.alternatives f
    return ([(Regular.choice rs).followedBy (Regular.choice ss)], f)
  | .alt a b => do
    let (rs, f) ← a.alternatives f
    let (ss, f) ← b.alternatives f
    return (rs ++ ss, f)

/-- The regular expression of a term. -/
def Term.regular (t : Term) (f : Flags) : Except Problem (Regular Atom) := do
  let (rs, _) ← t.alternatives f
  return Regular.choice rs

end IntentSelect.Pattern
