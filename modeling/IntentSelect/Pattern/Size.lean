import IntentSelect.Pattern.Beginning
import Std.Data.HashMap

/-!
# How large a pattern is

A pattern stands for two automata, one that reads UTF-8 byte by byte from the front and one that
reads it from the back.  Counted repetitions are written out in them.  The size of an automaton is
so many bytes for each state, and some more for each choice and for each range that a state tells
apart; a pattern fits if neither is larger than a limit.

The first automaton notes where counted groups begin and end, and in it a set beyond ASCII has one
state for all beginnings of encodings that go on alike.  In the second, what begins alike is shared
as far as it is remembered (`Shared`).  A choice between texts is written as a tree of them.

An automaton is not built; only its states are counted, by functions that take the states so far to
those after a part has been added.
-/
namespace IntentSelect.Pattern

open Unicode

/-- The end from which an automaton reads. -/
inductive Reads where
  | forwards
  | backwards
deriving DecidableEq

/-! ## Counting -/

/-- The bytes of a state. -/
def stateSize : Nat := 32

/-- The bytes of one of several states that may come next. -/
def nextSize : Nat := 4

/-- The bytes of a range with a way of its own. -/
def rangeSize : Nat := 8

/-- The states of an automaton, and the bytes they take up besides their own. -/
structure Tally where
  states : Nat := 0
  extra : Nat := 0
deriving DecidableEq, Repr

namespace Tally

def size (t : Tally) : Nat := stateSize * t.states + t.extra

/-- Adds states with one way out. -/
def simple (n : Nat) (t : Tally) : Tally := { t with states := t.states + n }

/-- Adds a state after which any of `n` may come. -/
def choice (n : Nat) (t : Tally) : Tally := ⟨t.states + 1, t.extra + nextSize * n⟩

/-- Adds a state that tells `n` ranges apart. -/
def ranges (n : Nat) (t : Tally) : Tally := ⟨t.states + 1, t.extra + rangeSize * n⟩

/-- Adds a part so many times.  It stops where the limit is exceeded, since nothing is ever taken
away. -/
def times (limit : Nat) (part : Tally → Tally) : Nat → Tally → Tally
  | 0, t => t
  | n + 1, t => if limit < t.size then t else times limit part n (part t)

end Tally

/-! ## Sets, forwards -/

/-- Numbers for the states that have been made, by the ranges they tell apart and the numbers of the
states to which these lead. -/
abbrev States := Std.HashMap (List (ByteRange × Nat)) Nat

mutual
/-- The number of a state from which sequences of at most `n` ranges can be read; zero if there is
nothing more to read. -/
def stateOf (n : Nat) (sequences : List (List ByteRange)) (states : States) : Nat × States :=
  match n with
  | 0 => (0, states)
  | n + 1 =>
    let groups := byHead sequences
    if groups.isEmpty then (0, states)
    else
      let (ways, states) := waysOf n groups states
      match states[ways]? with
      | some number => (number, states)
      | none => (states.size + 1, states.insert ways (states.size + 1))
termination_by (n, 0)

/-- The ways out of a state, one for each range. -/
def waysOf (n : Nat) (groups : List (ByteRange × List (List ByteRange))) (states : States) :
    List (ByteRange × Nat) × States :=
  match groups with
  | [] => ([], states)
  | (range, sequences) :: groups =>
    let (number, states) := stateOf n sequences states
    let (ways, states) := waysOf n groups states
    ((range, number) :: ways, states)
termination_by (n, groups.length + 1)
end

/-- The states that tell the encodings of a set apart from the front. -/
def statesForwards (sequences : List (List ByteRange)) : List (List (ByteRange × Nat)) :=
  ((stateOf 4 sequences ∅).2.toList).map Prod.fst

/-! ## Sets, backwards -/

/-- The states of one set that are made and remembered.  A state reads a range on the way to the
state with a given number.  There are a thousand places to remember states in; where two have the
same place the later is remembered. -/
structure Shared where
  /-- The number of the next state. -/
  next : Nat
  kept : Std.HashMap Nat ((Nat × ByteRange) × Nat) := ∅

namespace Shared

/-- How many places there are. -/
def places : UInt64 := 1000

/-- Mixes a number into a hash. -/
def mix (hash : UInt64) (n : Nat) : UInt64 := (hash ^^^ UInt64.ofNat n) * 1099511628211

/-- The place of a state that reads a range on the way to another. -/
def place (target : Nat) (range : ByteRange) : Nat :=
  (mix (mix (mix 14695981039346656037 target) range.1) range.2 % places).toNat

/-- The state that reads a range on the way to another, remembered or new. -/
def reading (s : Shared) (target : Nat) (range : ByteRange) : Nat × Shared :=
  let place := place target range
  let known := (s.kept[place]?).filter fun k => decide (k.1 = (target, range))
  match known with
  | some k => (k.2, s)
  | none => (s.next, ⟨s.next + 1, s.kept.insert place ((target, range), s.next)⟩)

/-- Adds the states of a sequence of ranges, the first of which leads to the given state. -/
def readingAll (target : Nat) (s : Shared) : List ByteRange → Shared
  | [] => s
  | range :: ranges =>
    let (state, s) := s.reading target range
    readingAll state s ranges

end Shared

/-- How many states tell the encodings of a set apart from the back, if they lead to the state with
a given number and get the numbers after it. -/
def statesBackwards (target : Nat) (sequences : List (List ByteRange)) : Nat :=
  (sequences.foldl (Shared.readingAll target) { next := target + 1 }).next - (target + 1)

/-! ## Sets -/

/-- Adds what tells a set of several characters, or of none, apart. -/
def Tally.set (reads : Reads) (s : CharSet) : Tally → Tally :=
  if s.isAscii then fun t => (t.simple 1).ranges s.spans.length
  else
    let sequences := byteSequences s
    match reads with
    | .forwards =>
      let states := statesForwards sequences
      fun t => states.foldl (fun t ways => t.ranges ways.length) (t.simple 1)
    | .backwards => fun t =>
      let t := (t.choice sequences.length).simple 1
      t.simple (statesBackwards (t.states - 1) sequences)

/-! ## Texts -/

/-- The runs of texts between those that are empty. -/
def runsBetweenEmpty : List (List Nat) → List (List (List Nat))
  | [] => [[]]
  | [] :: texts => [] :: runsBetweenEmpty texts
  | text :: texts =>
    match runsBetweenEmpty texts with
    | run :: runs => (text :: run) :: runs
    | [] => [[text]]

/-- Texts of which only one is empty before the first that is not. -/
def oneEmptyFirst (texts : List (List Nat)) : List (List Nat) :=
  match texts with
  | [] :: texts => [] :: texts.dropWhile List.isEmpty
  | texts => texts

mutual
/-- Adds a tree of texts of at most `n` bytes.  They are kept in order, so one that ends divides
those before from those after it. -/
def Tally.tree (n : Nat) (texts : List (List Nat)) (t : Tally) : Tally :=
  match n with
  | 0 => t
  | n + 1 =>
    if texts.all List.isEmpty then t
    else
      let runs := runsBetweenEmpty (oneEmptyFirst texts)
      let filled := runs.filter fun run => !run.isEmpty
      (t.runs n (filled.map byHead)).choice (filled.length + (runs.length - 1))
termination_by (n, 0, 0)

/-- Adds runs of texts, each by its first bytes. -/
def Tally.runs (n : Nat) (runs : List (List (Nat × List (List Nat)))) (t : Tally) : Tally :=
  match runs with
  | [] => t
  | run :: runs =>
    let t := t.branches n run
    (if run.length = 1 then t.simple 1 else t.ranges run.length).runs n runs
termination_by (n, 2, runs.length)

/-- Adds what follows different first bytes. -/
def Tally.branches (n : Nat) (run : List (Nat × List (List Nat))) (t : Tally) : Tally :=
  match run with
  | [] => t
  | (_, texts) :: run => (t.tree n texts).branches n run
termination_by (n, 1, run.length)
end

/-- Adds a choice between texts. -/
def Tally.texts (reads : Reads) (texts : List (List Char)) (t : Tally) : Tally :=
  let texts := texts.map fun text =>
    match reads with
    | .forwards => bytesOf text
    | .backwards => (bytesOf text).reverse
  let longest := texts.foldl (fun n text => max n text.length) 0
  (t.simple 1).tree (longest + 1) texts

/-! ## Expressions -/

/-- Adds a part that is repeated. -/
def Tally.repeated (limit : Nat) (takesSome : Bool) (part : Tally → Tally) (least : Nat)
    (most : Option Nat) (t : Tally) : Tally :=
  match most with
  | none =>
    if 0 < least then (Tally.times limit part least t).choice 2
    else if takesSome then part (t.choice 2)
    else (((part t).choice 2).choice 2).simple 1
  | some most =>
    if least = most then Tally.times limit part least t
    else if least = 0 ∧ most = 1 then (part (t.choice 2)).simple 1
    else
      let t := if least = 0 then t.simple 1 else Tally.times limit part least t
      Tally.times limit (fun t => part (t.choice 2)) (most - least) (t.simple 1)

namespace Regular

/-- The least number of characters that are taken up; none if a part can match nothing. -/
def shortest? : Regular Atom → Option Nat
  | .empty | .atom (.look _) => some 0
  | .atom (.char s) => if s.isEmpty then none else some 1
  | .seq a b => do return (← a.shortest?) + (← b.shortest?)
  | .alt a b => do return min (← a.shortest?) (← b.shortest?)
  | .repeated r least _ _ => r.shortest?.map (least * ·)
  | .group r => r.shortest?

/-- True if every match takes up something. -/
def takesSome (r : Regular Atom) : Bool := r.shortest?.any fun n => decide (0 < n)

/-- Adds a choice, given what adds each alternative. -/
def addChoice (reads : Reads) (r : Regular Atom) (steps : List (Tally → Tally)) : Tally → Tally :=
  match steps with
  | [] => id
  | [step] => step
  | first :: second :: more =>
    match r.alternatives.mapM text? with
    | some texts => Tally.texts reads texts
    | none => fun t =>
      more.foldl (fun t step => step t) (((second (first t)).choice steps.length).simple 1)

/-- What adds each alternative of an expression. -/
def steps (reads : Reads) (limit : Nat) : Regular Atom → List (Tally → Tally)
  | .empty | .atom (.look _) => [Tally.simple 1]
  | .atom (.char s) =>
    match (Regular.atom (.char s)).char? with
    | some c => [Tally.simple (utf8Bytes c.toNat).length]
    | none => [Tally.set reads s]
  | .seq a b =>
    let first := addChoice reads a (a.steps reads limit)
    let second := addChoice reads b (b.steps reads limit)
    match reads with
    | .forwards => [fun t => second (first t)]
    | .backwards => [fun t => first (second t)]
  | .alt a b => a.steps reads limit ++ b.steps reads limit
  | .repeated r least most _ =>
    let part := addChoice reads r (r.steps reads limit)
    [Tally.repeated limit r.takesSome part least most]
  | .group r =>
    let part := addChoice reads r (r.steps reads limit)
    match reads with
    | .forwards => [fun t => (part (t.simple 1)).simple 1]
    | .backwards => [part]

/-- True if every match starts where the text does. -/
def startsText : Regular Atom → Bool
  | .empty | .atom (.char _) => false
  | .atom (.look l) => l == .textStart
  | .seq a b => a.startsText || (a.takesNothing && b.startsText)
  | .alt a b => a.startsText && b.startsText
  | .repeated r least _ _ => decide (0 < least) && r.startsText
  | .group r => r.startsText

/-- True if every match ends where the text does. -/
def endsText : Regular Atom → Bool
  | .empty | .atom (.char _) => false
  | .atom (.look l) => l == .textEnd
  | .seq a b => b.endsText || (b.takesNothing && a.endsText)
  | .alt a b => a.endsText && b.endsText
  | .repeated r least _ _ => decide (0 < least) && r.endsText
  | .group r => r.endsText

/-- The automaton of an expression that reads from one end; where it exceeds the limit some of it
may be missing.  Unless matches are fixed to that end, what stands before them is passed over. -/
def tally (reads : Reads) (limit : Nat) (r : Regular Atom) : Tally :=
  let body := addChoice reads r (r.steps reads limit)
  let start (fixed : Bool) : Tally :=
    if fixed then Tally.simple 1 {} else ((Tally.choice 2 {}).simple 1).ranges 1
  match reads with
  | .forwards => (body ((start r.startsText).simple 1)).simple 2
  | .backwards => (body (start r.endsText)).simple 1

/-- True if neither automaton of an expression exceeds the limit. -/
def fits (limit : Nat) (r : Regular Atom) : Bool :=
  decide ((r.tally .forwards limit).size ≤ limit) &&
    decide ((r.tally .backwards limit).size ≤ limit)

end Regular

end IntentSelect.Pattern
