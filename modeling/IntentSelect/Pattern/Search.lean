import IntentSelect.Pattern.Meaning
import IntentSelect.Pattern.Reader
import IntentSelect.Pattern.Size

/-!
# Searching

A search works on sets of places.  The places of a text are those before each of its characters and
the one at its end, and a set of them is a number whose bits they are.  For every atom the places
where it holds are worked out first (`Atom.places`); `Regular.ends` then takes the set of places
where a match may begin to the set of places where it may end.  A pattern is found if some match
that begins anywhere ends anywhere.
-/
namespace IntentSelect.Pattern

open Unicode

/-! ## Where atoms hold -/

/-- The places before characters for which `p` holds. -/
def placesBefore (p : Char → Bool) : List Char → Nat
  | [] => 0
  | c :: cs => (p c).toNat + 2 * placesBefore p cs

/-- The places for which `p` holds, given the characters on both sides. -/
def placesBetween (p : Option Char → Option Char → Bool) (left : Option Char) : List Char → Nat
  | [] => (p left none).toNat
  | c :: cs => (p left (some c)).toNat + 2 * placesBetween p (some c) cs

/-- Whether a place is what is said, given whether a word reaches it from the left and from the
right. -/
def Boundary.holds (left right : Bool) : Boundary → Bool
  | .edge => left != right
  | .noEdge => left == right
  | .start => !left && right
  | .finish => left && !right
  | .startHalf => !left
  | .finishHalf => !right

/-- Whether a place is what is said, given the characters on both sides. -/
def Look.holds (left right : Option Char) : Look → Bool
  | .textStart => left.isNone
  | .textEnd => right.isNone
  | .lineStart false => left.isNone || left == some '\n'
  | .lineEnd false => right.isNone || right == some '\n'
  | .lineStart true =>
    left.isNone || left == some '\n' || (left == some '\r' && right != some '\n')
  | .lineEnd true =>
    right.isNone || right == some '\r' || (right == some '\n' && left != some '\r')
  | .word b ascii =>
    let set := if ascii then asciiWordSet else wordSet
    b.holds (left.any set.contains) (right.any set.contains)

/-- The places where an atom holds, and how many characters it takes up. -/
def Atom.places (text : List Char) : Atom → Nat × Nat
  | .char s => (placesBefore s.contains text, 1)
  | .look l => (placesBetween (fun left right => l.holds left right) none text, 0)

/-! ## Sets of places -/

/-- Takes `step` so many times, or until it changes nothing any more. -/
def times (step : Nat → Nat) : Nat → Nat → Nat
  | 0, places => places
  | n + 1, places =>
    let next := step places
    if next = places then places else times step n next

/-- Takes `step` up to so many times, keeping all places on the way. -/
def upToTimes (step : Nat → Nat) : Nat → Nat → Nat
  | 0, places => places
  | n + 1, places =>
    let next := places ||| step places
    if next = places then places else upToTimes step n next

/-- Where matches that begin at one of the given places may end.  In a text with `count` places a
repetition has reached all that it can after as many rounds. -/
def Regular.ends (count : Nat) : Regular (Nat × Nat) → Nat → Nat
  | .empty, places => places
  | .atom (held, width), places => (places &&& held) <<< width
  | .seq a b, places => b.ends count (a.ends count places)
  | .alt a b, places => a.ends count places ||| b.ends count places
  | .repeated r least most _, places =>
    let rounds := match most with
      | none => count
      | some most => most - least
    upToTimes (r.ends count) rounds (times (r.ends count) least places)
  | .group r, places => r.ends count places

/-- True if a match occurs somewhere in a text. -/
def Regular.foundIn (r : Regular Atom) (text : String) : Bool :=
  let cs := text.toList
  let count := cs.length + 1
  (r.map (Atom.places cs)).ends count ((1 <<< count) - 1) != 0

/-! ## Patterns as text -/

/-- The regular expression that a pattern stands for, if its size is within a limit. -/
def compile (limit : Nat) (pattern : String) : Except Problem (Regular Atom) := do
  let t ← Term.ofText? pattern
  let r ← t.regular {}
  if r.isPlain || r.fits limit then return r else throw (.tooLarge limit)

end IntentSelect.Pattern
