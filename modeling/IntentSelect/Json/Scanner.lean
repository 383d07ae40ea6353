import IntentSelect.Json.Cause

/-!
# Reading the parts of a document

Each scanner takes the characters that are left and hands back what it read together with what is
then left, or a `Fault`.  There are scanners for white space, the words `null`, `true` and `false`,
strings and numbers.  Strings and numbers also come in a version that only skips them
(`skipString`, `skipNumber`): it checks their form but neither whether surrogates are paired nor
whether a number is in range.
-/
namespace IntentSelect.Json

def isSpace (c : Char) : Bool := c == ' ' || c == '\n' || c == '\t' || c == '\r'

/-- What is left after white space. -/
def skipSpace (cs : List Char) : List Char := cs.dropWhile isSpace

/-- Reads the rest of a word whose first letter has been read. -/
def scanWord : List Char → List Char → Except Fault (List Char)
  | [], cs => .ok cs
  | _ :: _, [] => .error (.here .endOfValue [])
  | w :: word, c :: cs => if c = w then scanWord word cs else .error (.next .expectedWord (c :: cs))

/-! ## Strings -/

def hexValue? (c : Char) : Option Nat :=
  if '0' ≤ c ∧ c ≤ '9' then some (c.toNat - '0'.toNat)
  else if 'a' ≤ c ∧ c ≤ 'f' then some (c.toNat - 'a'.toNat + 10)
  else if 'A' ≤ c ∧ c ≤ 'F' then some (c.toNat - 'A'.toNat + 10)
  else none

/-- The number that four hexadecimal digits write. -/
def hexFour? (a b c d : Char) : Option Nat := do
  let a ← hexValue? a
  let b ← hexValue? b
  let c ← hexValue? c
  let d ← hexValue? d
  return ((a * 16 + b) * 16 + c) * 16 + d

/-- The fault of an escape that is not followed by four hexadecimal digits: four bytes are taken, or
all if there are fewer. -/
def badHex (rest : List Char) : Fault :=
  if 4 ≤ (utf8 rest).length then ⟨.invalidEscape, rest, 4⟩ else .here .endOfString []

/-- The character of an escape of one letter. -/
def shortEscape? (c : Char) : Option Char :=
  match c with
  | '"' => some '"'
  | '\\' => some '\\'
  | '/' => some '/'
  | 'b' => some '\x08'
  | 'f' => some '\x0c'
  | 'n' => some '\n'
  | 'r' => some '\r'
  | 't' => some '\t'
  | _ => none

def isHighSurrogate (n : Nat) : Bool := decide (0xD800 ≤ n) && decide (n ≤ 0xDBFF)

def isLowSurrogate (n : Nat) : Bool := decide (0xDC00 ≤ n) && decide (n ≤ 0xDFFF)

/-- The character that two surrogates write. -/
def pairedChar (high low : Nat) : Char :=
  Char.ofNat ((high - 0xD800) * 0x400 + (low - 0xDC00) + 0x10000)

/-- Puts a character in front of a string that has been read. -/
def consRead (c : Char) (read : Except Fault (List Char × List Char)) :
    Except Fault (List Char × List Char) :=
  read.map fun r => (c :: r.1, r.2)

/-- Reads a string after its opening quote. -/
def scanString : List Char → Except Fault (List Char × List Char)
  | [] => .error (.here .endOfString [])
  | c :: cs =>
    if c = '"' then .ok ([], cs)
    else if c = '\\' then
      match cs with
      | [] => .error (.here .endOfString [])
      | e :: rest =>
        match shortEscape? e with
        | some x => consRead x (scanString rest)
        | none =>
          if e = 'u' then
            match rest with
            | a :: b :: c' :: d :: more =>
              match hexFour? a b c' d with
              | none => .error (badHex rest)
              | some n =>
                if isLowSurrogate n then .error (.here .loneSurrogate more)
                else if isHighSurrogate n then
                  match more with
                  | [] => .error (.here .endOfString [])
                  | x :: more' =>
                    if x = '\\' then
                      match more' with
                      | [] => .error (.here .endOfString [])
                      | u :: low =>
                        if u = 'u' then
                          match low with
                          | p :: q :: r :: s :: last =>
                            match hexFour? p q r s with
                            | none => .error (badHex low)
                            | some m =>
                              if isLowSurrogate m then consRead (pairedChar n m) (scanString last)
                              else .error (.here .loneSurrogate last)
                          | _ => .error (badHex low)
                        else .error (.next .endOfEscape (u :: low))
                    else .error (.next .endOfEscape (x :: more'))
                else consRead (Char.ofNat n) (scanString more)
            | _ => .error (badHex rest)
          else .error (.next .invalidEscape (e :: rest))
    else if c.toNat < 0x20 then .error (.next .controlCharacter (c :: cs))
    else consRead c (scanString cs)

/-- Skips a string after its opening quote. -/
def skipString : List Char → Except Fault (List Char)
  | [] => .error (.here .endOfString [])
  | c :: cs =>
    if c = '"' then .ok cs
    else if c = '\\' then
      match cs with
      | [] => .error (.here .endOfString [])
      | e :: rest =>
        match shortEscape? e with
        | some _ => skipString rest
        | none =>
          if e = 'u' then
            match rest with
            | a :: b :: c' :: d :: more =>
              match hexFour? a b c' d with
              | none => .error (badHex rest)
              | some _ => skipString more
            | _ => .error (badHex rest)
          else .error (.next .invalidEscape (e :: rest))
    else if c.toNat < 0x20 then .error (.here .controlCharacter (c :: cs))
    else skipString cs

/-! ## Numbers

The digits of a number are gathered into a significand as long as it has at most 64 bits; further
digits only move the exponent.  A number with a point or an exponent, the number `-0` and every
integer of more than 64 bits is a double: its significand times or divided by a power of ten, in the
arithmetic of doubles.
-/

/-- Appends digits to a significand while it has at most `limit`. -/
def gather (limit n : Nat) : List Char → Nat × List Char
  | [] => (n, [])
  | c :: cs =>
    if c.isDigit then
      let n' := n * 10 + (c.toNat - '0'.toNat)
      if n' ≤ limit then gather limit n' cs else (n, c :: cs)
    else (n, c :: cs)

def skipDigits (cs : List Char) : List Char := cs.dropWhile Char.isDigit

def startsWithDigit : List Char → Bool
  | [] => false
  | c :: _ => c.isDigit

def isExponentMark (c : Char) : Bool := c == 'e' || c == 'E'

/-- The greatest significand. -/
def significandLimit : Nat := 0xFFFFFFFFFFFFFFFF

/-- The greatest exponent that is told from an infinite one. -/
def exponentLimit : Nat := 0x7FFFFFFF

/-- `f` times ten to the `e`, or nothing if that is infinite. -/
def scaleDouble (fuel : Nat) (f : Float) (e : Int) : Option Float :=
  match fuel with
  | 0 => some f
  | n + 1 =>
    if e.natAbs ≤ 308 then
      let power := Float.ofScientific 1 false e.natAbs
      if 0 ≤ e then
        let product := f * power
        if product.isInf then none else some product
      else some (f / power)
    else if f == 0 then some f
    else if 0 ≤ e then none
    else scaleDouble n (f / 1e308) (e + 308)

/-- The double of a sign, a significand and an exponent of ten. -/
def doubleOf (negative : Bool) (significand : Nat) (e : Int) (rest : List Char) :
    Except Fault (Number × List Char) :=
  match scaleDouble 8 (UInt64.ofNat significand).toFloat e with
  | none => .error (.here .numberOutOfRange rest)
  | some f => .ok (.float (if negative then -f else f).toBits, rest)

/-- Reads an exponent after its mark. -/
def scanExponent (negative : Bool) (significand : Nat) (start : Int) (cs : List Char) :
    Except Fault (Number × List Char) :=
  let signed : Bool × List Char :=
    match cs with
    | '+' :: rest => (false, rest)
    | '-' :: rest => (true, rest)
    | rest => (false, rest)
  match signed.2 with
  | [] => .error (.here .endOfValue [])
  | c :: rest =>
    if c.isDigit then
      let (e, more) := gather exponentLimit 0 (c :: rest)
      if startsWithDigit more then
        if significand ≠ 0 ∧ signed.1 = false then .error (.next .numberOutOfRange more)
        else doubleOf negative 0 0 (skipDigits more)
      else doubleOf negative significand (if signed.1 then start - e else start + e) more
    else .error (.next .invalidNumber (c :: rest))

/-- Reads what may follow the digits of a double: an exponent or nothing. -/
def scanAfterDigits (negative : Bool) (significand : Nat) (e : Int) (cs : List Char) :
    Except Fault (Number × List Char) :=
  match cs with
  | [] => doubleOf negative significand e []
  | c :: rest =>
    if isExponentMark c then scanExponent negative significand e rest
    else doubleOf negative significand e (c :: rest)

/-- Reads the digits after the point. -/
def scanFraction (negative : Bool) (significand : Nat) (e : Int) (cs : List Char) :
    Except Fault (Number × List Char) :=
  let (n, rest) := gather significandLimit significand cs
  let taken := cs.length - rest.length
  if startsWithDigit rest then scanAfterDigits negative n (e - taken) (skipDigits rest)
  else if taken = 0 then
    match rest with
    | [] => .error (.here .endOfValue [])
    | c :: more => .error (.next .invalidNumber (c :: more))
  else scanAfterDigits negative n (e - taken) rest

/-- The number of an integer literal. -/
def integerLiteral (negative : Bool) (significand : Nat) : Number :=
  let whole? := if negative then (if significand = 0 then none else Whole.ofInt? (-significand))
    else Whole.ofInt? significand
  match whole? with
  | some w => .whole w
  | none =>
    let f := (UInt64.ofNat significand).toFloat
    .float (if negative then -f else f).toBits

/-- Reads what may follow the integer digits: a point, an exponent or nothing. -/
def scanAfterInteger (negative : Bool) (significand : Nat) (cs : List Char) :
    Except Fault (Number × List Char) :=
  match cs with
  | [] => .ok (integerLiteral negative significand, [])
  | c :: rest =>
    if c = '.' then scanFraction negative significand 0 rest
    else if isExponentMark c then scanExponent negative significand 0 rest
    else .ok (integerLiteral negative significand, c :: rest)

/-- Reads a number after its sign. -/
def scanUnsigned (negative : Bool) (cs : List Char) : Except Fault (Number × List Char) :=
  match cs with
  | [] => .error (.here .endOfValue [])
  | c :: rest =>
    if c = '0' then
      if startsWithDigit rest then .error (.next .invalidNumber rest)
      else scanAfterInteger negative 0 rest
    else if c.isDigit then
      let (n, more) := gather significandLimit 0 (c :: rest)
      if startsWithDigit more then
        let after := skipDigits more
        let e : Int := more.length - after.length
        match after with
        | '.' :: fraction => scanFraction negative n e fraction
        | after => scanAfterDigits negative n e after
      else scanAfterInteger negative n more
    else .error (.next .invalidNumber (c :: rest))

/-- Reads a number that begins with a minus sign or a digit. -/
def scanNumber (cs : List Char) : Except Fault (Number × List Char) :=
  match cs with
  | '-' :: rest => scanUnsigned true rest
  | cs => scanUnsigned false cs

/-- Skips an exponent after its mark. -/
def skipExponent (cs : List Char) : Except Fault (List Char) :=
  let unsigned :=
    match cs with
    | '+' :: rest => rest
    | '-' :: rest => rest
    | rest => rest
  match unsigned with
  | [] => .error (.here .invalidNumber [])
  | c :: rest =>
    if c.isDigit then .ok (skipDigits rest) else .error (.next .invalidNumber (c :: rest))

/-- Skips what may follow digits: an exponent or nothing. -/
def skipAfterDigits (cs : List Char) : Except Fault (List Char) :=
  match cs with
  | [] => .ok []
  | c :: rest => if isExponentMark c then skipExponent rest else .ok (c :: rest)

/-- Skips a number after its sign. -/
def skipUnsigned (cs : List Char) : Except Fault (List Char) :=
  match cs with
  | [] => .error (.here .invalidNumber [])
  | c :: rest =>
    if c = '0' ∧ startsWithDigit rest = true then .error (.next .invalidNumber rest)
    else if c.isDigit then
      match skipDigits rest with
      | '.' :: fraction =>
        if startsWithDigit fraction then skipAfterDigits (skipDigits fraction)
        else .error (.next .invalidNumber fraction)
      | after => skipAfterDigits after
    else .error (.next .invalidNumber (c :: rest))

/-- Skips a number that begins with a minus sign or a digit. -/
def skipNumber (cs : List Char) : Except Fault (List Char) :=
  match cs with
  | '-' :: rest => skipUnsigned rest
  | cs => skipUnsigned cs

end IntentSelect.Json
