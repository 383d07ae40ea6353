import IntentSelect.Decimal.Shortest
import IntentSelect.Json.Value

/-!
# Printing JSON

`Value.compact` prints without any white space, `Value.pretty` with one field or element a line and
two blanks a level.  Fields are printed in the order in which they stand.  Quotes, backslashes and
control characters below U+0020 are escaped, nothing else.  A double is printed with the fewest
digits that read back, always with a point or an exponent.
-/
namespace IntentSelect.Json

open Decimal

/-- Doubles are positional up to sixteen digits before the point and four zeros after it. -/
def floatLayout : Layout := ⟨16, -5⟩

def hexDigit (n : Nat) : Char := Nat.digitChar n

/-- How one character is written between quotes. -/
def escapedChar (c : Char) : List Char :=
  if c = '"' then ['\\', '"']
  else if c = '\\' then ['\\', '\\']
  else if c = '\x08' then ['\\', 'b']
  else if c = '\t' then ['\\', 't']
  else if c = '\n' then ['\\', 'n']
  else if c = '\x0c' then ['\\', 'f']
  else if c = '\r' then ['\\', 'r']
  else if c.toNat < 0x20 then
    ['\\', 'u', '0', '0', hexDigit (c.toNat / 16), hexDigit (c.toNat % 16)]
  else [c]

/-- The text of a string between quotes. -/
def stringChars (s : String) : List Char := '"' :: s.toList.flatMap escapedChar ++ ['"']

/-- The digits of an integer, after a minus sign if it is negative. -/
def wholeChars (i : Int) : List Char :=
  if i < 0 then '-' :: Nat.toDigits 10 i.natAbs else Nat.toDigits 10 i.natAbs

/-- The text of a number; a double that is not finite has none. -/
def Number.chars : Number → List Char
  | .whole w => wholeChars w.val
  | .float bits => (floatLayout.writeDouble? bits).getD ['n', 'u', 'l', 'l']

def boolChars (b : Bool) : List Char :=
  if b then ['t', 'r', 'u', 'e'] else ['f', 'a', 'l', 's', 'e']

/-! ## Without white space -/

mutual
/-- The characters of a value. -/
def Value.chars (v : Value) : List Char :=
  match v with
  | .null => ['n', 'u', 'l', 'l']
  | .bool b => boolChars b
  | .number n => n.chars
  | .string s => stringChars s
  | .array [] => ['[', ']']
  | .array (v :: rest) => '[' :: v.chars ++ itemsChars rest
  | .object [] => ['{', '}']
  | .object ((k, v) :: rest) => '{' :: stringChars k ++ ':' :: v.chars ++ fieldsChars rest
termination_by structural v

/-- The elements after the first, each after a comma, and the closing bracket. -/
def itemsChars (items : List Value) : List Char :=
  match items with
  | [] => [']']
  | v :: rest => ',' :: v.chars ++ itemsChars rest
termination_by structural items

/-- The fields after the first, each after a comma, and the closing brace. -/
def fieldsChars (fields : List (String × Value)) : List Char :=
  match fields with
  | [] => ['}']
  | (k, v) :: rest => ',' :: stringChars k ++ ':' :: v.chars ++ fieldsChars rest
termination_by structural fields
end

/-- The text of a value without white space. -/
def Value.compact (v : Value) : String := String.ofList v.chars

/-- The text by which values are compared: a string is its own text, `null` has none, and any other
value is printed. -/
def Value.text? : Value → Option String
  | .null => none
  | .string s => some s
  | v => some v.compact

/-! ## With white space -/

/-- A line break and two blanks for each level. -/
def newLine (level : Nat) : List Char := '\n' :: List.replicate (2 * level) ' '

mutual
/-- The characters of a value that stands on the given level. -/
def Value.prettyChars (level : Nat) (v : Value) : List Char :=
  match v with
  | .null => ['n', 'u', 'l', 'l']
  | .bool b => boolChars b
  | .number n => n.chars
  | .string s => stringChars s
  | .array [] => ['[', ']']
  | .array (v :: rest) =>
    '[' :: newLine (level + 1) ++ v.prettyChars (level + 1) ++ itemsPretty level rest
  | .object [] => ['{', '}']
  | .object ((k, v) :: rest) =>
    '{' :: newLine (level + 1) ++ stringChars k ++ ':' :: ' ' :: v.prettyChars (level + 1) ++
      fieldsPretty level rest
termination_by structural v

/-- The elements after the first of an array on the given level, and the closing bracket. -/
def itemsPretty (level : Nat) (items : List Value) : List Char :=
  match items with
  | [] => newLine level ++ [']']
  | v :: rest =>
    ',' :: newLine (level + 1) ++ v.prettyChars (level + 1) ++ itemsPretty level rest
termination_by structural items

/-- The fields after the first of an object on the given level, and the closing brace. -/
def fieldsPretty (level : Nat) (fields : List (String × Value)) : List Char :=
  match fields with
  | [] => newLine level ++ ['}']
  | (k, v) :: rest =>
    ',' :: newLine (level + 1) ++ stringChars k ++ ':' :: ' ' :: v.prettyChars (level + 1) ++
      fieldsPretty level rest
termination_by structural fields
end

/-- The text of a value with one field or element a line. -/
def Value.pretty (v : Value) : String := String.ofList (v.prettyChars 0)

end IntentSelect.Json
