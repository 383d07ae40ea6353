import IntentSelect.Pattern.Encoding
import IntentSelect.Pattern.Regular

/-!
# How matches begin

`Regular.beginnings` lists texts, as bytes, with one of which every match begins, in the order in
which matches are preferred.  Some are whole matches and others go on.  Where there would be too
many the list is shortened: ends of texts are left away, or there is no list at all.

A pattern is plain if the texts that are best looked for are whole matches: then looking for them is
all there is to do (`Regular.isPlain`).
-/
namespace IntentSelect.Pattern

open Unicode

/-- A text with which matches begin. -/
structure Beginning where
  bytes : List Nat
  /-- True if a match is nothing more. -/
  whole : Bool
deriving DecidableEq, Repr

namespace Beginning

/-- The start of a text with at most `n` bytes. -/
def keep (n : Nat) (b : Beginning) : Beginning :=
  if n < b.bytes.length then ⟨b.bytes.take n, false⟩ else b

/-- The text as one that goes on. -/
def goingOn (b : Beginning) : Beginning := { b with whole := false }

/-- Merges neighbours that are equal but for being whole. -/
def mergeAlike : List Beginning → List Beginning
  | [] => []
  | b :: bs =>
    match mergeAlike bs with
    | [] => [b]
    | c :: cs => if b.bytes = c.bytes then ⟨b.bytes, b.whole && c.whole⟩ :: cs else b :: c :: cs

/-- Leaves out texts that begin with an earlier one. -/
def withoutLonger (kept : List Beginning) : List Beginning → List Beginning
  | [] => kept.reverse
  | b :: bs =>
    if kept.any fun k => k.bytes.isPrefixOf b.bytes then withoutLonger kept bs
    else withoutLonger (b :: kept) bs

end Beginning

/-! ## Listing -/

/-- Texts with which matches begin, or nothing if there is no useful list of them. -/
abbrev Beginnings := Option (List Beginning)

namespace Beginnings

/-- How many characters a set may have to be listed. -/
def setLimit : Nat := 10

/-- How often a repetition is written out. -/
def repeatLimit : Nat := 10

/-- How many bytes a text may have. -/
def lengthLimit : Nat := 100

/-- How many texts there may be. -/
def countLimit : Nat := 250

/-- Nothing before a match is known but that it begins. -/
def start : Beginnings := some [⟨[], true⟩]

def goingOn (bs : Beginnings) : Beginnings := bs.map fun l => l.map Beginning.goingOn

/-- True if nothing that follows can be added. -/
def isClosed (bs : Beginnings) : Bool :=
  match bs with
  | none => true
  | some l => l.all fun b => !b.whole

/-- The characters of a set that is small enough. -/
def ofSet (s : CharSet) : Beginnings :=
  if s.size ≤ setLimit then
    some (s.spans.flatMap fun r =>
      (List.range r.size).map fun i => ⟨utf8Bytes (r.first + i), true⟩)
  else none

/-- The texts of two lists in one. -/
def union (as bs : Beginnings) : Beginnings :=
  match as, bs with
  | some as, some bs =>
    if as.length + bs.length ≤ countLimit then some (Beginning.mergeAlike (as ++ bs))
    else
      let short := fun (l : List Beginning) => Beginning.mergeAlike (l.map (Beginning.keep 4))
      let all := short as ++ short bs
      if all.length ≤ countLimit then some (Beginning.mergeAlike all) else none
  | _, _ => none

/-- The whole texts of the first list with each of the second after it. -/
def cross (as bs : Beginnings) : Beginnings :=
  match as, bs with
  | none, _ => none
  | some as, some bs =>
    if as.length * bs.length ≤ countLimit then
      let joined := as.flatMap fun a =>
        if a.whole then bs.map fun b => ⟨a.bytes ++ b.bytes, b.whole⟩ else [a]
      some ((Beginning.mergeAlike joined).map (Beginning.keep lengthLimit))
    else before as
  | some as, none => before as
where
  /-- What is left of a list before something unknown. -/
  before (as : List Beginning) : Beginnings :=
    if as.any fun a => a.bytes.isEmpty then none
    else some ((as.map Beginning.goingOn).map (Beginning.keep lengthLimit))

/-- What follows is added unless nothing can be. -/
def thenAlso (as bs : Beginnings) : Beginnings := if as.isClosed then as else as.cross bs

/-- The texts of so many one after the other. -/
def times (bs : Beginnings) : Nat → Beginnings
  | 0 => start
  | n + 1 => (times bs n).thenAlso bs

/-- The texts of a repetition. -/
def repeated (bs : Beginnings) (least : Nat) (most : Option Nat) (greedy : Bool) : Beginnings :=
  if least = 0 then
    let once := if most = some 1 then bs else bs.goingOn
    if greedy then once.union start else start.union once
  else
    match most with
    | none => bs.goingOn
    | some most =>
      let written := bs.times (min least repeatLimit)
      if least = most ∧ least ≤ repeatLimit then written else written.goingOn

end Beginnings

/-- The texts with which matches of an expression begin.  Inside a chain they are added to those of
what stands before in it. -/
def Regular.beginnings (chain : Chain) (before : Beginnings) : Regular Atom → Beginnings
  | .empty | .atom (.look _) => add .start
  | .atom (.char s) => add (.ofSet s)
  | .seq a b =>
    if chain = .seq then b.beginnings .seq (a.beginnings .seq before)
    else add (b.beginnings .seq (a.beginnings .seq .start))
  | .alt a b =>
    if chain = .alt then b.beginnings .alt (a.beginnings .alt before)
    else add (b.beginnings .alt (a.beginnings .alt (some [])))
  | .repeated r least most greedy =>
    add ((r.beginnings .none .start).repeated least most greedy)
  | .group r => add (r.beginnings .none .start)
where
  add (own : Beginnings) : Beginnings :=
    match chain with
    | .none => own
    | .seq => before.thenAlso own
    | .alt => before.union own

/-! ## Plain patterns -/

/-- Characters below U+0080 that are common in texts. -/
def commonCharacters : List Char := "\n\r (),-./0129:_abcdefghilmnoprstuvxy|".toList

/-- True for a byte that is seldom the first of a character. -/
def isRare (byte : Nat) : Bool :=
  decide (byte < 0x80) && !commonCharacters.any fun c => c.toNat == byte

/-- The lengths to which texts are cut where there are more of them than so many, in turn. -/
def cuts : List (Nat × Nat) := [(5, 10), (4, 10), (3, 64), (2, 64), (1, 10)]

/-- Cuts texts as long as there are too many of them. -/
def cutDown : List (Nat × Nat) → List Beginning → List Beginning
  | [], bs => bs
  | (length, limit) :: more, bs =>
    if bs.length ≤ limit then bs
    else cutDown more (Beginning.withoutLonger [] (bs.map (Beginning.keep length)))

/-- True if texts are whole matches and nothing that is looked for instead is quicker to find. -/
def areWhole (bs : List Beginning) : Bool :=
  bs.all Beginning.whole &&
    (let short := cutDown cuts bs
     short.all Beginning.whole || short.any (fun b => decide (b.bytes.length ≤ 2)) ||
       decide (64 < short.length))

/-- True if the texts with which matches begin are best looked for as they are and are whole
matches.  A rare byte with which all begin is looked for instead, and so is a longer text with which
all begin. -/
def arePlain (bs : List Beginning) : Bool :=
  if bs.isEmpty || bs.any fun b => b.bytes.isEmpty then false
  else
    let kept := Beginning.withoutLonger [] bs
    let shared := Regular.commonStartOf (kept.map Beginning.bytes)
    let few := kept.all Beginning.whole && decide (kept.length ≤ 16)
    if 1 < bs.length ∧ shared.length ≤ 3 ∧ (shared.head?.any isRare) then
      kept.all fun b => b.whole && decide (b.bytes.length ≤ 1)
    else if 4 < shared.length ∨ (1 < shared.length ∧ !few) then
      areWhole (Beginning.mergeAlike (kept.map (Beginning.keep shared.length)))
    else areWhole kept

/-- True if an expression has neither counted groups nor places. -/
def Regular.isBare : Regular Atom → Bool
  | .empty | .atom (.char _) => true
  | .atom (.look _) | .group _ => false
  | .seq a b | .alt a b => a.isBare && b.isBare
  | .repeated r _ _ _ => r.isBare

/-- How many texts are enough to look for them as they are in any case. -/
def manyTexts : Nat := 3000

/-- True for a choice between a great many texts. -/
def Regular.isListing (r : Regular Atom) : Bool :=
  decide (manyTexts ≤ r.alternatives.length) && r.alternatives.all fun a => a.text?.isSome

/-- True for an expression that is matched by looking for a few texts. -/
def Regular.isPlain (r : Regular Atom) : Bool :=
  r.isBare && ((r.beginnings .none .start).any arePlain || r.isListing)

end IntentSelect.Pattern
