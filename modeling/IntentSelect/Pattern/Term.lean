/-!
# Patterns as they are written

A `Term` is a pattern taken apart and not yet interpreted: what a letter or a class stands for
depends on flags, which a pattern may change as it goes along.  Sequences and alternatives lean to
the right, so a chain of them is `seq a (seq b (seq c d))`; the readers build no other.

The parts of a term may be nested in one another up to `nestLimit` times.  A chain counts once,
however long it is.
-/
namespace IntentSelect.Pattern

/-- What can be switched on and off inside a pattern. -/
inductive Flag where
  | ignoreCase
  /-- `^` and `$` hold at lines as well. -/
  | manyLines
  /-- `.` includes line ends. -/
  | dotAll
  /-- What makes a repetition lazy makes it greedy, and the other way round. -/
  | swapGreed
  | unicode
  /-- A line may end with a carriage return. -/
  | crlf
  /-- White space and comments in the pattern are passed over. -/
  | spaced
deriving DecidableEq, Repr

/-- A flag, and whether it is switched on. -/
structure FlagChange where
  flag : Flag
  on : Bool
deriving DecidableEq, Repr

/-- What a place is to the words around it. -/
inductive Boundary where
  | edge
  | noEdge
  | start
  | finish
  /-- No word ends or goes on here from the left. -/
  | startHalf
  /-- No word begins or goes on here to the right. -/
  | finishHalf
deriving DecidableEq, Repr

/-- What a term says about a place without taking up a character. -/
inductive Assertion where
  | lineStart
  | lineEnd
  | textStart
  | textEnd
  | word (b : Boundary)
deriving DecidableEq, Repr

/-- The classes that have an escape of one letter. -/
inductive Shorthand where
  | digit
  | space
  | word
deriving DecidableEq, Repr

/-- A class of characters by Unicode property. -/
inductive PropertyQuery where
  | named (name : String)
  | value (property value : String)
deriving DecidableEq, Repr

/-- How two classes are combined. -/
inductive ClassOp where
  | inter
  | difference
  | symmetricDifference
deriving DecidableEq, Repr

/-- A single character in a pattern. -/
structure Literal where
  char : Char
  /-- Written as two hexadecimal digits, which may also mean a byte. -/
  asByte : Bool := false
deriving DecidableEq, Repr

/-- What stands between brackets. -/
inductive ClassTerm where
  | empty
  | literal (l : Literal)
  | range (first last : Literal)
  /-- A class by one of fourteen names. -/
  | named (ranges : List (Char × Char)) (negated : Bool)
  | property (q : PropertyQuery) (negated : Bool)
  | shorthand (s : Shorthand) (negated : Bool)
  | bracketed (negated : Bool) (inner : ClassTerm)
  | union (a b : ClassTerm)
  | op (o : ClassOp) (a b : ClassTerm)
deriving Repr

inductive Term where
  | empty
  | literal (l : Literal)
  | dot
  | assertion (a : Assertion)
  | property (q : PropertyQuery) (negated : Bool)
  | shorthand (s : Shorthand) (negated : Bool)
  | bracketed (negated : Bool) (inner : ClassTerm)
  /-- With `lazy`, the fewest repetitions are preferred where the most are otherwise. -/
  | repeated (inner : Term) (least : Nat) (most : Option Nat) (lazy : Bool)
  | group (inner : Term)
  /-- A group that is not counted, with flags that hold in it. -/
  | scope (changes : List FlagChange) (inner : Term)
  /-- Flags that hold from here to the end of the group. -/
  | flags (changes : List FlagChange)
  | seq (a b : Term)
  | alt (a b : Term)
deriving Repr

/-! ## Nesting -/

/-- The kind of chain that a term is the tail of. -/
inductive Chain where
  | none
  | seq
  | alt
deriving DecidableEq

/-- How deep the parts of a class are nested. -/
def ClassTerm.nesting (tail : Bool) : ClassTerm → Nat
  | .bracketed _ inner => inner.nesting false + 1
  | .union a b => max (a.nesting false) (b.nesting true) + (if tail then 0 else 1)
  | .op _ a b => max (a.nesting false) (b.nesting false) + 1
  | _ => 0

/-- How deep the parts of a term are nested. -/
def Term.nesting (chain : Chain) : Term → Nat
  | .bracketed _ inner => inner.nesting false + 1
  | .repeated inner _ _ _ | .group inner | .scope _ inner => inner.nesting .none + 1
  | .seq a b => max (a.nesting .none) (b.nesting .seq) + (if chain = .seq then 0 else 1)
  | .alt a b => max (a.nesting .none) (b.nesting .alt) + (if chain = .alt then 0 else 1)
  | _ => 0

/-- How often the parts of a pattern may be nested in one another. -/
def nestLimit : Nat := 250

/-! ## Chains -/

/-- The terms one after the other. -/
def Term.inOrder : List Term → Term
  | [] => .empty
  | [t] => t
  | t :: ts => .seq t (inOrder ts)

/-- All of several classes together. -/
def ClassTerm.together : List ClassTerm → ClassTerm
  | [] => .empty
  | [t] => t
  | t :: ts => .union t (together ts)

end IntentSelect.Pattern
