/-!
# Why a pattern is refused
-/
namespace IntentSelect.Pattern

inductive Problem where
  /-- A group or a flag list that is never closed. -/
  | openGroup
  /-- A closing parenthesis without a group. -/
  | strayParenthesis
  /-- Assertions about what stands around a place, other than those of words and lines. -/
  | lookAround
  | groupName
  | repeatedName
  | noFlags
  | unknownFlag
  | repeatedFlag
  /-- A `-` in a flag list that switches nothing off. -/
  | danglingMinus
  | nothingToRepeat
  | openCount
  | noCount
  | countTooLarge
  | countsReversed
  | openClass
  /-- The ends of a range that are not two characters in ascending order. -/
  | rangeEnds
  /-- Something in brackets that stands for no character. -/
  | notInClass
  | openEscape
  | unknownEscape
  | backReference
  | hexDigit
  | noHexDigits
  | notCharacter
  | unknownWordMark
  | unknownProperty
  | nestedTooDeep
  /-- Something that only makes sense if texts are sequences of bytes. -/
  | notText
  | tooLarge (limit : Nat)
deriving DecidableEq, Repr

namespace Problem

def message : Problem → String
  | .openGroup => "unclosed group"
  | .strayParenthesis => "unopened group"
  | .lookAround => "look-around, including look-ahead and look-behind, is not supported"
  | .groupName => "invalid capture group name"
  | .repeatedName => "duplicate capture group name"
  | .noFlags => "empty flag list"
  | .unknownFlag => "unrecognized flag"
  | .repeatedFlag => "duplicate flag"
  | .danglingMinus => "dangling flag negation operator"
  | .nothingToRepeat => "repetition operator missing expression"
  | .openCount => "unclosed counted repetition"
  | .noCount => "repetition quantifier expects a valid decimal"
  | .countTooLarge => "decimal literal invalid"
  | .countsReversed => "invalid repetition count range, the start must be <= the end"
  | .openClass => "unclosed character class"
  | .rangeEnds => "invalid range in character class"
  | .notInClass => "invalid escape sequence found in character class"
  | .openEscape => "incomplete escape sequence, reached end of pattern prematurely"
  | .unknownEscape => "unrecognized escape sequence"
  | .backReference => "backreferences are not supported"
  | .hexDigit => "invalid hexadecimal digit"
  | .noHexDigits => "hexadecimal literal empty"
  | .notCharacter => "hexadecimal literal is not a Unicode scalar value"
  | .unknownWordMark => "unrecognized special word boundary assertion"
  | .unknownProperty => "Unicode property not found"
  | .nestedTooDeep => "exceeds the nest limit"
  | .notText => "pattern can match invalid UTF-8"
  | .tooLarge limit =>
    "Compiled regex exceeds size limit of " ++ String.ofList (Nat.toDigits 10 limit) ++ " bytes."

end Problem

end IntentSelect.Pattern
