import IntentSelect.Text.Blank

/-!
# White space and comments in patterns

Where a pattern is `spaced`, white space between its signs means nothing, and neither does what
stands between a `#` and the end of its line.  The functions here read characters with both passed
over; `inComment` is true while such a comment lasts.
-/
namespace IntentSelect.Pattern

open Text

/-- True for what a spaced pattern passes over. -/
def isIdle (inComment : Bool) (c : Char) : Bool := inComment || isBlank c || c == '#'

/-- Whether a comment lasts after a character that is passed over. -/
def commentAfter (inComment : Bool) (c : Char) : Bool := if inComment then c != '\n' else c == '#'

/-- What follows white space and comments. -/
def passOver (inComment : Bool) : List Char → List Char
  | [] => []
  | c :: cs => if isIdle inComment c then passOver (commentAfter inComment c) cs else c :: cs

/-- The next sign and what follows it. -/
def skip (spaced : Bool) (cs : List Char) : List Char := if spaced then passOver false cs else cs

/-- The signs before a closing one, and what follows that. -/
def readUpTo (close : Char) (spaced inComment : Bool) :
    List Char → Option (List Char × List Char)
  | [] => none
  | c :: cs =>
    if spaced && isIdle inComment c then readUpTo close spaced (commentAfter inComment c) cs
    else if c = close then some ([], cs)
    else (readUpTo close spaced false cs).map fun p => (c :: p.1, p.2)

/-- The digits that come next, and the sign that follows them. -/
def readDigits (spaced inComment : Bool) : List Char → List Char × List Char
  | [] => ([], [])
  | c :: cs =>
    if spaced && isIdle inComment c then readDigits spaced (commentAfter inComment c) cs
    else if c.isDigit then
      let p := readDigits spaced false cs
      (c :: p.1, p.2)
    else ([], c :: cs)

/-- The next `n` signs, and what follows them. -/
def readSigns (spaced : Bool) : Nat → List Char → Option (List Char × List Char)
  | 0, cs => some ([], cs)
  | n + 1, cs =>
    match skip spaced cs with
    | [] => none
    | c :: cs => (readSigns spaced n cs).map fun p => (c :: p.1, p.2)

end IntentSelect.Pattern
