import IntentSelect.Unicode.CharSet

/-!
# Characters as bytes

Characters are encoded in UTF-8.  A run of code points is cut into parts whose encodings are
products: one range of bytes after the other (`byteRanges`).
-/
namespace IntentSelect.Pattern

open Unicode

/-- The bytes of a code point. -/
def utf8Bytes (n : Nat) : List Nat :=
  if n < 0x80 then [n]
  else if n < 0x800 then [0xC0 + n / 0x40, 0x80 + n % 0x40]
  else if n < 0x10000 then [0xE0 + n / 0x1000, 0x80 + n / 0x40 % 0x40, 0x80 + n % 0x40]
  else [0xF0 + n / 0x40000, 0x80 + n / 0x1000 % 0x40, 0x80 + n / 0x40 % 0x40, 0x80 + n % 0x40]

/-- The bytes of a text. -/
def bytesOf (text : List Char) : List Nat := text.flatMap fun c => utf8Bytes c.toNat

/-- Where a run has to be cut so that each part is a product of ranges of bytes: first by the length
of the encoding, then so that whole blocks stay together. -/
def cutAfter? (s : Span) : Option Nat :=
  match [0x7F, 0x7FF, 0xFFFF].find? fun m => decide (s.first ≤ m) && decide (m < s.last) with
  | some m => some m
  | none =>
    if s.last < 0x80 then none
    else
      [0x40, 0x1000, 0x40000].findSome? fun block =>
        if s.first / block = s.last / block then none
        else if s.first % block ≠ 0 then some (s.first / block * block + (block - 1))
        else if s.last % block ≠ block - 1 then some (s.last / block * block - 1)
        else none

/-- The parts of a run; it is cut at most nine times one inside the other. -/
def cutUp : Nat → Span → List Span
  | 0, s => [s]
  | n + 1, s =>
    match cutAfter? s with
    | none => [s]
    | some m => cutUp n ⟨s.first, m⟩ ++ cutUp n ⟨m + 1, s.last⟩

/-- A range of bytes, both ends included. -/
abbrev ByteRange := Nat × Nat

/-- The ranges of bytes, one after the other, that encode a part of a run. -/
def byteRanges (s : Span) : List ByteRange := (utf8Bytes s.first).zip (utf8Bytes s.last)

/-- The sequences of ranges of bytes that encode the characters of a set, in ascending order. -/
def byteSequences (s : CharSet) : List (List ByteRange) :=
  (s.spans.flatMap (cutUp 16)).map byteRanges

/-! ## Sequences by their beginnings -/

/-- Sequences with their first elements put together where these are equal: each first element with
what follows it, in the order in which it comes first. -/
def byHead {α : Type} [DecidableEq α] : List (List α) → List (α × List (List α))
  | [] => []
  | [] :: rest => byHead rest
  | (a :: as) :: rest =>
    let others := byHead rest
    match others.find? fun g => g.1 = a with
    | some g => (a, as :: g.2) :: others.filter fun g => g.1 ≠ a
    | none => (a, [as]) :: others

end IntentSelect.Pattern
