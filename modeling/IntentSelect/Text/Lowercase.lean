import IntentSelect.Text.CaseTable

/-!
# Lower case

`lowercase` is the full, locale-independent mapping of the Unicode standard.  Every character is
mapped on its own, with two exceptions: `İ` becomes two characters, and the capital sigma looks at
its neighbours.  It becomes a final sigma if the nearest character before it that is not ignorable
for case is cased, and the nearest such character after it is not.
-/
namespace IntentSelect.Text

open Unicode

def isCased (c : Char) : Bool := casedSpans.any (·.contains c.toNat)

def isCaseIgnorable (c : Char) : Bool := caseIgnorableSpans.any (·.contains c.toNat)

/-- True if the first character that is not ignorable for case is cased. -/
def casedNext (cs : List Char) : Bool :=
  match cs.dropWhile isCaseIgnorable with
  | [] => false
  | c :: _ => isCased c

namespace LowerRun

def holds (r : LowerRun) (n : Nat) : Bool :=
  decide (r.first ≤ n) && decide (n ≤ r.last) && (n - r.first) % r.step == 0

end LowerRun

/-- The lower-case form of a character on its own. -/
def lowerChar (c : Char) : List Char :=
  if c = 'İ' then ['i', '\u0307']
  else
    match lowerRuns.find? (·.holds c.toNat) with
    | some r => [Char.ofNat (r.image + (c.toNat - r.first))]
    | none => [c]

/-- The lower-case form of a capital sigma between the characters before it, nearest first, and
those after it. -/
def lowerSigma (before after : List Char) : Char :=
  if casedNext before && !casedNext after then 'ς' else 'σ'

/-- The lower-case form of a text that stands after `before`, nearest character first. -/
def lowerAfter (before : List Char) : List Char → List Char
  | [] => []
  | c :: rest =>
    (if c = 'Σ' then [lowerSigma before rest] else lowerChar c) ++ lowerAfter (c :: before) rest

/-- The lower-case form of a text. -/
def lowered (cs : List Char) : List Char := lowerAfter [] cs

/-- The lower-case form of a text. -/
def lowercase (s : String) : String := String.ofList (lowered s.toList)

theorem toList_lowercase (s : String) : (lowercase s).toList = lowered s.toList := by
  simp [lowercase]

@[simp] theorem lowered_nil : lowered [] = [] := rfl

theorem lowerAfter_cons (before : List Char) (c : Char) (rest : List Char) :
    lowerAfter before (c :: rest) =
      (if c = 'Σ' then [lowerSigma before rest] else lowerChar c) ++
        lowerAfter (c :: before) rest := rfl

end IntentSelect.Text
