/-!
# Text without control sequences

A terminal is told by control sequences how to show a text.  `withoutControls` leaves them out,
together with all other controls that are not white space, and keeps what would be seen.

Control sequences begin with an escape.  A few signs may follow and then a letter, which ends the
sequence, or it is a bracket or one of five letters that open a longer one.  Of these some go on up
to the next letter and others contain a text up to a terminator; a new escape ends any of them.
-/
namespace IntentSelect.Text

/-- What has been read of a control sequence. -/
inductive Sequence where
  | none
  /-- The escape. -/
  | escape
  /-- Signs after the escape. -/
  | signs
  /-- The opening bracket of a sequence that ends with a letter. -/
  | bracket
  /-- The opening of a text for a device, and nothing else. -/
  | device
  /-- Numbers before a text for a device. -/
  | deviceNumbers
  /-- Signs before a text for a device. -/
  | deviceSigns
  /-- A text up to a string terminator. -/
  | text
  /-- A text up to a bell. -/
  | title
deriving DecidableEq, Repr

/-- White space below U+0020; it is shown although it controls something. -/
def isSpacingControl (c : Char) : Bool := c == '\t' || c == '\n' || c == '\x0c' || c == '\r'

/-- True for a character that is shown outside control sequences. -/
def isVisible (c : Char) : Bool :=
  isSpacingControl c || (decide (0x20 ≤ c.toNat) && c != '\x7f')

/-- The byte that is a string terminator, also as part of a longer character. -/
def terminator : UInt8 := 0x9C

namespace Sequence

/-- What a sign or a letter makes of a sequence. -/
def afterSign (s : Sequence) (c : Char) : Sequence :=
  let sign := decide (c < '0')
  let digit := decide (c < '<')
  let letter := decide ('@' ≤ c)
  match s with
  | none => none
  | escape =>
    if sign then signs
    else
      match c with
      | '[' => bracket
      | ']' => title
      | 'P' => device
      | 'X' | '^' | '_' => text
      | _ => none
  | signs => if sign then signs else none
  | bracket => if letter then none else bracket
  | device => if sign then deviceSigns else if letter then text else deviceNumbers
  | deviceNumbers => if sign then deviceSigns else if digit then deviceNumbers else text
  | deviceSigns => if sign then deviceSigns else text
  | text => text
  | title => title

/-- What the next character makes of a sequence. -/
def after (s : Sequence) (c : Char) : Sequence :=
  if c = '\x1b' then escape
  else if c = '\x18' ∨ c = '\x1a' then none
  else if c = '\x07' ∧ s = title then none
  else if c < ' ' ∨ c = '\x7f' then s
  else if c < '\x80' then s.afterSign c
  else if s = text ∧ (String.utf8EncodeChar c).contains terminator then none
  else s

/-- True if a character is shown although the sequence is open. -/
def shows (s : Sequence) (c : Char) : Bool :=
  match s with
  | none => isVisible c
  | escape | signs | bracket => isSpacingControl c
  | device | deviceNumbers | deviceSigns | text | title => false

end Sequence

/-- The characters that are seen.  `seen` is true after one of them: what follows is seen too as
long as it is visible, even where white space has interrupted a sequence.  That sequence goes on
with the next control, unless a character beyond ASCII has come between. -/
def visible (seen : Bool) (s : Sequence) : List Char → List Char
  | [] => []
  | c :: cs =>
    if seen && isVisible c then c :: visible true (if c < '\x80' then s else .none) cs
    else if s.shows c then c :: visible true (s.after c) cs
    else visible false (s.after c) cs

/-- The text without control sequences. -/
def withoutControls (s : String) : String := String.ofList (visible false .none s.toList)

end IntentSelect.Text
