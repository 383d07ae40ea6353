import IntentSelect.Text.CharacterClass

/-!
# Quoted text

The form in which a message shows a piece of text: between double quotes, with quotes and
backslashes escaped, the usual short escapes, and every other character that would not be visible
on its own as a code point in braces.
-/
namespace IntentSelect.Text

/-- A code point between braces, in hexadecimal. -/
def codePointEscape (c : Char) : List Char :=
  ['\\', 'u', '{'] ++ Nat.toDigits 16 c.toNat ++ ['}']

/-- How one character is shown between quotes. -/
def quotedChar (c : Char) : List Char :=
  match c with
  | '\x00' => ['\\', '0']
  | '\t' => ['\\', 't']
  | '\r' => ['\\', 'r']
  | '\n' => ['\\', 'n']
  | '"' => ['\\', '"']
  | '\\' => ['\\', '\\']
  | c =>
    if 0x20 ≤ c.toNat ∧ c.toNat < 0x7F then [c]
    else if extendingSet.contains c || hiddenSet.contains c then codePointEscape c
    else [c]

/-- The text between quotes. -/
def quoted (s : String) : String :=
  String.ofList (['"'] ++ s.toList.flatMap quotedChar ++ ['"'])

end IntentSelect.Text
