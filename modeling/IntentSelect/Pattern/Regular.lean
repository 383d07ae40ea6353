import IntentSelect.Pattern.Term
import IntentSelect.Unicode.CharSet

/-!
# Regular expressions

What a pattern means once its flags have been applied: a regular expression whose atoms either take
up one character of a set or say something about a place.

`Regular` takes the type of its atoms as a parameter, because searching a text begins by working out
for every atom where in that text it holds.

Expressions are built by `followedBy`, `choice`, `repeating` and the constructors `group` and
`atom`, which keep them simple: sequences and alternatives are chains that lean to the right, with
no chain directly inside one of its own kind; alternatives that all are single characters, or all
are sets of several characters, are one set; and what all alternatives begin with is written once.
-/
namespace IntentSelect.Pattern

open Unicode

/-- What can be said about a place. -/
inductive Look where
  | textStart
  | textEnd
  /-- The start of a line; with `crlf`, lines may also end with a carriage return. -/
  | lineStart (crlf : Bool)
  | lineEnd (crlf : Bool)
  /-- With `ascii`, words are made of letters, digits and underscores below U+0080. -/
  | word (b : Boundary) (ascii : Bool)
deriving DecidableEq, Repr

inductive Atom where
  /-- One character of the set is taken up. -/
  | char (s : CharSet)
  | look (l : Look)
deriving DecidableEq, Repr

/-- A regular expression over atoms. -/
inductive Regular (α : Type) where
  | empty
  | atom (a : α)
  | seq (a b : Regular α)
  | alt (a b : Regular α)
  /-- Greed does not show in whether a text is matched; it is kept for the order in which the texts
  that are matched come. -/
  | repeated (r : Regular α) (least : Nat) (most : Option Nat) (greedy : Bool)
  /-- A group that is counted. -/
  | group (r : Regular α)
deriving DecidableEq, Repr

namespace Regular
variable {α β : Type}

def map (f : α → β) : Regular α → Regular β
  | .empty => .empty
  | .atom a => .atom (f a)
  | .seq a b => .seq (a.map f) (b.map f)
  | .alt a b => .alt (a.map f) (b.map f)
  | .repeated r least most greedy => .repeated (r.map f) least most greedy
  | .group r => .group (r.map f)

/-! ## Sequences -/

/-- The parts of a sequence. -/
def parts : Regular α → List (Regular α)
  | .empty => []
  | .seq a b => a :: b.parts
  | r => [r]

/-- A part before a sequence. -/
def before (part : Regular α) : Regular α → Regular α
  | .empty => part
  | rest => .seq part rest

/-- One after the other; what is empty is left out. -/
def followedBy (a b : Regular α) : Regular α := a.parts.foldr before b

/-- Parts one after the other. -/
def inOrder (parts : List (Regular α)) : Regular α := parts.foldr before .empty

/-! ## Texts -/

/-- The character that an expression takes up, if it takes up that one and nothing else. -/
def char? : Regular Atom → Option Char
  | .atom (.char ⟨[⟨first, last⟩]⟩) => if first = last then some (Char.ofNat first) else none
  | _ => none

/-- The text that an expression stands for, if it stands for one that is not empty. -/
def text? (r : Regular Atom) : Option (List Char) :=
  if r.parts.isEmpty then none else r.parts.mapM char?

/-- The parts of a sequence with successive single characters put together. -/
def pieces : List (Regular Atom) → List (List (Regular Atom))
  | [] => []
  | r :: rest =>
    match pieces rest with
    | (next :: piece) :: more =>
      if r.char?.isSome && next.char?.isSome then (r :: next :: piece) :: more
      else [r] :: (next :: piece) :: more
    | more => [r] :: more

/-! ## Alternatives -/

/-- The alternatives of a choice. -/
def alternatives : Regular α → List (Regular α)
  | .alt a b => a :: b.alternatives
  | r => [r]

/-- The set of which an expression takes up one character. -/
def set? : Regular Atom → Option CharSet
  | .atom (.char s) => some s
  | _ => none

/-- The set that alternatives come to, if all are single characters or none is and all are sets. -/
def commonSet? (rs : List (Regular Atom)) : Option CharSet :=
  let singles := rs.filter fun r => r.char?.isSome
  if singles.isEmpty ∨ singles.length = rs.length then (rs.mapM set?).map CharSet.unions else none

/-- One or another of several expressions, of which none is a choice itself. -/
def oneOf : List (Regular Atom) → Regular Atom
  | [] => .atom (.char CharSet.empty)
  | [r] => r
  | r :: rs => .alt r (oneOf rs)

/-- One or another of several expressions, as a set if they come to one. -/
def merged (rs : List (Regular Atom)) : Regular Atom :=
  let rs := rs.flatMap alternatives
  match commonSet? rs with
  | some s => .atom (.char s)
  | none => oneOf rs

/-- What two lists have in common before they differ. -/
def commonStart {γ : Type} [DecidableEq γ] : List γ → List γ → List γ
  | a :: as, b :: bs => if a = b then a :: commonStart as bs else []
  | _, _ => []

/-- What all of several lists have in common before two differ. -/
def commonStartOf {γ : Type} [DecidableEq γ] : List (List γ) → List γ
  | [] => []
  | l :: ls => ls.foldl commonStart l

/-- The pieces with which all alternatives begin.  There are none unless every alternative has
several pieces. -/
def sharedPieces (rs : List (Regular Atom)) : List (List (Regular Atom)) :=
  let all := rs.map fun r => pieces r.parts
  if all.all fun ps => decide (2 ≤ ps.length) then commonStartOf all else []

/-- One or another of several expressions.  What all begin with is put before the choice. -/
def choice (rs : List (Regular Atom)) : Regular Atom :=
  match rs.flatMap alternatives with
  | [r] => r
  | rs =>
    let shared := (sharedPieces rs).flatten
    if shared.isEmpty then merged rs
    else
      (inOrder shared).followedBy (merged (rs.map fun r => inOrder (r.parts.drop shared.length)))

/-! ## Repetitions -/

/-- True if nothing but the empty text can be matched. -/
def takesNothing : Regular Atom → Bool
  | .empty => true
  | .atom (.char _) => false
  | .atom (.look _) => true
  | .seq a b | .alt a b => a.takesNothing && b.takesNothing
  | .repeated r _ _ _ | .group r => r.takesNothing

/-- Repeats an expression.  Repeating one that takes nothing is no different from taking it once. -/
def repeating (r : Regular Atom) (least : Nat) (most : Option Nat) (greedy : Bool) :
    Regular Atom :=
  let (least, most) :=
    if r.takesNothing then (min least 1, some (min (most.getD 1) 1)) else (least, most)
  match least, most with
  | 0, some 0 => .empty
  | 1, some 1 => r
  | least, most => .repeated r least most greedy

end Regular

end IntentSelect.Pattern
