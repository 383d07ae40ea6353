/-!
# Sets of characters

A set of characters is kept as runs of code points, ascending, disjoint and never touching, and
without the surrogates, which are no characters.  Every operation hands back such a list: `union`
sorts and joins, `complement` takes the gaps, and the other operations are built from these two.

Tables that come with the library are written in a packed form and opened by `CharSet.unpack`:
each run is the distance from the end of the run before it and its length less one, both written
in base 32 with the most significant digit first.  `A`–`Z` and `a`–`f` are the digits that another
digit follows, `g`–`z`, `0`–`9`, `+` and `/` the ones that end a number.  Line breaks and spaces
mean nothing.
-/
namespace IntentSelect.Unicode

/-- The code points from `first` to `last`, both included. -/
structure Span where
  first : Nat
  last : Nat
deriving DecidableEq, Repr

namespace Span

def contains (s : Span) (n : Nat) : Bool := decide (s.first ≤ n) && decide (n ≤ s.last)

/-- How many code points the run holds. -/
def size (s : Span) : Nat := s.last + 1 - s.first

theorem contains_iff (s : Span) (n : Nat) : s.contains n = true ↔ s.first ≤ n ∧ n ≤ s.last := by
  simp [contains]

end Span

/-- A set of characters, as ascending runs of code points that never touch. -/
structure CharSet where
  spans : List Span
deriving DecidableEq, Repr

namespace CharSet

/-- The last code point there is. -/
def lastCodePoint : Nat := 0x10FFFF

/-- The code points that are no characters. -/
def surrogates : Span := ⟨0xD800, 0xDFFF⟩

def empty : CharSet := ⟨[]⟩

def isEmpty (s : CharSet) : Bool := s.spans.isEmpty

def contains (s : CharSet) (c : Char) : Bool := s.spans.any (·.contains c.toNat)

/-- How many characters the set holds. -/
def size (s : CharSet) : Nat := s.spans.foldl (fun n r => n + r.size) 0

/-- True if every character of the set is below U+0080. -/
def isAscii (s : CharSet) : Bool := s.spans.all fun r => decide (r.last < 0x80)

/-! ## Normal form -/

/-- Joins a run with those after it that overlap or touch it. -/
def joinFrom (current : Span) : List Span → List Span
  | [] => [current]
  | next :: rest =>
    if next.first ≤ current.last + 1 then
      joinFrom ⟨current.first, max current.last next.last⟩ rest
    else
      current :: joinFrom next rest

/-- Sorts runs and joins those that overlap or touch. -/
def ofSpans (spans : List Span) : CharSet :=
  match spans.mergeSort fun a b => decide (a.first ≤ b.first) with
  | [] => empty
  | s :: rest => ⟨joinFrom s rest⟩

/-- The runs between the given ascending ones, from `start` to the last code point. -/
def gapsFrom (start : Nat) : List Span → List Span
  | [] => if start ≤ lastCodePoint then [⟨start, lastCodePoint⟩] else []
  | s :: rest =>
    if start < s.first then ⟨start, s.first - 1⟩ :: gapsFrom (s.last + 1) rest
    else gapsFrom (max start (s.last + 1)) rest

/-! ## Operations -/

def ofChar (c : Char) : CharSet := ⟨[⟨c.toNat, c.toNat⟩]⟩

/-- The characters from `a` to `b`. -/
def range (a b : Char) : CharSet := ofSpans [⟨a.toNat, b.toNat⟩]

def ofChars (cs : List Char) : CharSet := ofSpans (cs.map fun c => ⟨c.toNat, c.toNat⟩)

def union (s t : CharSet) : CharSet := ofSpans (s.spans ++ t.spans)

/-- Every character outside the set. -/
def complement (s : CharSet) : CharSet := ⟨gapsFrom 0 (ofSpans (surrogates :: s.spans)).spans⟩

def inter (s t : CharSet) : CharSet := (s.complement.union t.complement).complement

def difference (s t : CharSet) : CharSet := s.inter t.complement

def symmetricDifference (s t : CharSet) : CharSet := (s.union t).difference (s.inter t)

/-- Every character. -/
def all : CharSet := empty.complement

def unions (sets : List CharSet) : CharSet := ofSpans (sets.flatMap spans)

/-! ## Packed tables -/

/-- The value of a packed digit, and whether it ends its number. -/
def packedDigit (c : Char) : Nat × Bool :=
  let n := c.toNat
  if 'A' ≤ c ∧ c ≤ 'Z' then (n - 'A'.toNat, false)
  else if 'a' ≤ c ∧ c ≤ 'f' then (n - 'a'.toNat + 26, false)
  else if 'g' ≤ c ∧ c ≤ 'z' then (n - 'g'.toNat, true)
  else if '0' ≤ c ∧ c ≤ '9' then (n - '0'.toNat + 20, true)
  else if c = '+' then (30, true)
  else (31, true)

/-- The numbers of a packed text; `acc` is the number read so far. -/
def packedNumbers (acc : Nat) : List Char → List Nat
  | [] => []
  | c :: rest =>
    if c = '\n' ∨ c = ' ' then packedNumbers acc rest
    else
      match packedDigit c with
      | (d, false) => packedNumbers (acc * 32 + d) rest
      | (d, true) => (acc * 32 + d) :: packedNumbers 0 rest

/-- The runs that distances and lengths describe, from `start` on. -/
def packedSpans (start : Nat) : List Nat → List Span
  | gap :: extent :: rest =>
    ⟨start + gap, start + gap + extent⟩ :: packedSpans (start + gap + extent + 1) rest
  | _ => []

/-- The set that a packed text describes. -/
def unpack (text : String) : CharSet := ⟨packedSpans 0 (packedNumbers 0 text.toList)⟩

end CharSet

end IntentSelect.Unicode
