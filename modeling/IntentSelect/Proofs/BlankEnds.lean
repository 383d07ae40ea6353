import IntentSelect.Text.Blank
import Mathlib.Data.List.Induction
import Mathlib.Data.List.TakeWhile

/-! # White space at the ends of texts

Every text is made of white space, a text with none at its ends, and white space again, and the
text in the middle is the trimmed one (`eq_padded`).  There is no other way to take a text apart so
(`trimmed_padded`): if the text in the middle neither begins nor ends with white space (`Tight`),
it is what trimming leaves.  All that is to be known about trimming follows from these two.
-/
namespace IntentSelect.Text
variable {before middle after start rest cs : List Char} {c : Char}

/-- Nothing but white space, or nothing at all. -/
def AllBlank (cs : List Char) : Prop := ∀ c ∈ cs, isBlank c = true

/-- No white space at either end. -/
structure Tight (cs : List Char) : Prop where
  head : ∀ c ∈ cs.head?, isBlank c = false
  last : ∀ c ∈ cs.getLast?, isBlank c = false

theorem allBlank_nil : AllBlank [] := List.forall_mem_nil _

theorem AllBlank.append (h : AllBlank before) (h' : AllBlank after) : AllBlank (before ++ after) :=
  List.forall_mem_append.mpr ⟨h, h'⟩

theorem allBlank_iff (s : String) : AllBlank s.toList ↔ hasText s = false := by
  simp [AllBlank, hasText]

/-! ## Taking white space off -/

theorem dropBlank_append (h : AllBlank before) (cs : List Char) :
    dropBlank (before ++ cs) = dropBlank cs :=
  List.dropWhile_append_of_pos h

theorem dropBlank_eq_self (h : ∀ c ∈ cs.head?, isBlank c = false) : dropBlank cs = cs := by
  cases cs with
  | nil => rfl
  | cons c cs => exact List.dropWhile_cons_of_neg (by simp [h c rfl])

theorem head?_dropBlank (cs : List Char) : ∀ c ∈ (dropBlank cs).head?, isBlank c = false := by
  intro c hc
  have hnot := List.head?_dropWhile_not isBlank cs
  rw [dropBlank, Option.mem_def] at hc
  rw [hc] at hnot
  simpa using hnot

/-- What has been taken off is white space. -/
theorem exists_append_dropBlank (cs : List Char) :
    ∃ before, AllBlank before ∧ cs = before ++ dropBlank cs :=
  ⟨cs.takeWhile isBlank, fun _ hc => List.mem_takeWhile_imp hc,
    List.takeWhile_append_dropWhile.symm⟩

theorem dropBlankEnd_append (h : AllBlank after) (cs : List Char) :
    dropBlankEnd (cs ++ after) = dropBlankEnd cs := by
  have hreverse : AllBlank after.reverse := fun c hc => h c (List.mem_reverse.mp hc)
  rw [dropBlankEnd, List.reverse_append, dropBlank_append hreverse, dropBlankEnd]

theorem dropBlankEnd_eq_self (h : ∀ c ∈ cs.getLast?, isBlank c = false) :
    dropBlankEnd cs = cs := by
  rw [dropBlankEnd, dropBlank_eq_self, List.reverse_reverse]
  rwa [List.head?_reverse]

theorem getLast?_dropBlankEnd (cs : List Char) :
    ∀ c ∈ (dropBlankEnd cs).getLast?, isBlank c = false := by
  rw [dropBlankEnd, List.getLast?_reverse]
  exact head?_dropBlank cs.reverse

theorem exists_dropBlankEnd_append (cs : List Char) :
    ∃ after, AllBlank after ∧ cs = dropBlankEnd cs ++ after := by
  obtain ⟨before, hbefore, hcs⟩ := exists_append_dropBlank cs.reverse
  refine ⟨before.reverse, fun c hc => hbefore c (List.mem_reverse.mp hc), ?_⟩
  rw [dropBlankEnd, ← List.reverse_append, ← hcs, List.reverse_reverse]

/-! ## Trimming -/

theorem tight_trimmed (cs : List Char) : Tight (trimmed cs) := by
  refine ⟨?_, getLast?_dropBlankEnd _⟩
  intro c hc
  obtain ⟨after, -, hcs⟩ := exists_dropBlankEnd_append (dropBlank cs)
  refine head?_dropBlank cs c ?_
  rw [hcs, List.head?_append, show (dropBlankEnd (dropBlank cs)).head? = some c from hc]
  rfl

/-- **A text is its trimmed form with white space around it.** -/
theorem eq_padded (cs : List Char) : ∃ before after, AllBlank before ∧ AllBlank after ∧
    cs = before ++ trimmed cs ++ after := by
  obtain ⟨before, hbefore, hcs⟩ := exists_append_dropBlank cs
  obtain ⟨after, hafter, hdrop⟩ := exists_dropBlankEnd_append (dropBlank cs)
  refine ⟨before, after, hbefore, hafter, ?_⟩
  rw [trimmed, List.append_assoc, ← hdrop, ← hcs]

/-- **Trimming finds the text between white space.** -/
theorem trimmed_padded (hbefore : AllBlank before) (hafter : AllBlank after) (h : Tight middle) :
    trimmed (before ++ middle ++ after) = middle := by
  rw [trimmed, List.append_assoc, dropBlank_append hbefore]
  cases middle with
  | nil =>
    have hnil : dropBlank after = [] := (dropBlank_eq_nil_iff after).mpr hafter
    rw [List.nil_append, hnil]
    rfl
  | cons c middle =>
    have hhead : dropBlank (c :: middle ++ after) = c :: middle ++ after :=
      dropBlank_eq_self fun d hd => h.head d hd
    rw [hhead, dropBlankEnd_append hafter, dropBlankEnd_eq_self h.last]

theorem Tight.trimmed_eq (h : Tight cs) : trimmed cs = cs := by
  have hpadded := trimmed_padded allBlank_nil allBlank_nil h
  rwa [List.nil_append, List.append_nil] at hpadded

/-- White space that is added at the ends is taken off again. -/
theorem trimmed_append (hbefore : AllBlank before) (hafter : AllBlank after) (cs : List Char) :
    trimmed (before ++ cs ++ after) = trimmed cs := by
  obtain ⟨front, back, hfront, hback, hcs⟩ := eq_padded cs
  have hparts : before ++ cs ++ after = before ++ front ++ trimmed cs ++ (back ++ after) :=
    calc before ++ cs ++ after
        = before ++ (front ++ trimmed cs ++ back) ++ after := by rw [← hcs]
      _ = before ++ front ++ trimmed cs ++ (back ++ after) := by simp only [List.append_assoc]
  rw [hparts]
  exact trimmed_padded (hbefore.append hfront) (hback.append hafter) (tight_trimmed cs)

theorem trimmed_eq_nil_iff : trimmed cs = [] ↔ AllBlank cs := by
  constructor
  · intro h
    obtain ⟨before, after, hbefore, hafter, hcs⟩ := eq_padded cs
    rw [h, List.append_nil] at hcs
    rw [hcs]
    exact hbefore.append hafter
  · intro h
    rw [trimmed, (dropBlank_eq_nil_iff cs).mpr h]
    rfl

/-- A text with something in it is one of which trimming leaves something. -/
theorem hasText_iff_trimmed (s : String) : hasText s = true ↔ trimmed s.toList ≠ [] := by
  rw [ne_eq, trimmed_eq_nil_iff, allBlank_iff, Bool.not_eq_false]

/-! ## Beginnings -/

/-- A text whose first character is seen does not begin with white space. -/
theorem eq_nil_of_prefix (hhead : ∀ c ∈ cs.head?, isBlank c = false) (hbefore : AllBlank before)
    (h : before <+: cs) : before = [] := by
  cases before with
  | nil => rfl
  | cons c before =>
    obtain ⟨rest, rfl⟩ := h
    have hseen := hhead c rfl
    rw [hbefore c List.mem_cons_self] at hseen
    cases hseen

/-- What begins and ends with something that is seen, and is the beginning of a text between white
space, is the beginning of the text. -/
theorem Tight.prefix_of_padded (h : Tight start) (hne : start ≠ []) (hbefore : AllBlank before)
    (hafter : AllBlank after) (hstart : start <+: before ++ middle ++ after) :
    start <+: middle := by
  have hnil : before = [] := by
    cases before with
    | nil => rfl
    | cons c before =>
      -- the first character is white space, but that of `start` is not
      obtain ⟨d, start, rfl⟩ := List.exists_cons_of_ne_nil hne
      have hseen := h.head d rfl
      rw [(List.cons_prefix_cons.mp hstart).1, hbefore c List.mem_cons_self] at hseen
      cases hseen
  rw [hnil, List.nil_append] at hstart
  rcases List.prefix_or_prefix_of_prefix hstart (List.prefix_append middle after) with hle | hge
  · exact hle
  · -- what `start` has beyond the text is white space, and so nothing
    obtain ⟨more, rfl⟩ := hge
    have hmore : more <+: after := (List.prefix_append_right_inj middle).mp hstart
    cases more using List.reverseRecOn with
    | nil => simp
    | append_singleton more c =>
      have hseen := h.last c (by simp)
      rw [hafter c (hmore.subset (by simp))] at hseen
      cases hseen

end IntentSelect.Text
