import IntentSelect.Unicode.CharSet

/-!
# Blank text

White space is what the Unicode property White_Space says: twenty-five characters.  A text is blank
if it holds nothing else, and trimming takes white space off its ends.  Everything is defined on
lists of characters; `trim` and `hasText` are the versions for strings.
-/
namespace IntentSelect.Text

open Unicode

/-- The characters of property White_Space. -/
def blankSpans : List Span := [
  ⟨0x09, 0x0D⟩, ⟨0x20, 0x20⟩, ⟨0x85, 0x85⟩, ⟨0xA0, 0xA0⟩, ⟨0x1680, 0x1680⟩, ⟨0x2000, 0x200A⟩,
  ⟨0x2028, 0x2029⟩, ⟨0x202F, 0x202F⟩, ⟨0x205F, 0x205F⟩, ⟨0x3000, 0x3000⟩]

def isBlank (c : Char) : Bool := blankSpans.any (·.contains c.toNat)

/-- The text without the white space before its first other character. -/
def dropBlank (cs : List Char) : List Char := cs.dropWhile isBlank

/-- The text without the white space after its last other character. -/
def dropBlankEnd (cs : List Char) : List Char := (dropBlank cs.reverse).reverse

/-- The text without white space at either end. -/
def trimmed (cs : List Char) : List Char := dropBlankEnd (dropBlank cs)

/-- The text without white space at either end. -/
def trim (s : String) : String := String.ofList (trimmed s.toList)

/-- True if the text holds a character that is not white space. -/
def hasText (s : String) : Bool := s.toList.any fun c => !isBlank c

theorem toList_trim (s : String) : (trim s).toList = trimmed s.toList := by
  simp [trim]

theorem hasText_iff (s : String) : hasText s = true ↔ ∃ c ∈ s.toList, isBlank c = false := by
  simp [hasText]

theorem dropBlank_eq_nil_iff (cs : List Char) :
    dropBlank cs = [] ↔ ∀ c ∈ cs, isBlank c = true := by
  induction cs with
  | nil => simp [dropBlank]
  | cons c cs ih =>
    rw [dropBlank] at ih ⊢
    by_cases h : isBlank c = true
    · rw [List.dropWhile_cons_of_pos h, ih, List.forall_mem_cons]
      exact ⟨fun hcs => ⟨h, hcs⟩, fun hcs => hcs.2⟩
    · rw [List.dropWhile_cons_of_neg h]
      exact iff_of_false (List.cons_ne_nil c cs) fun hcs => h (hcs c List.mem_cons_self)

end IntentSelect.Text
