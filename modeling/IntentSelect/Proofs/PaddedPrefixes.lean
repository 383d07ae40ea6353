import IntentSelect.Proofs.BlankEnds
import IntentSelect.Proofs.FinalSigma
import Mathlib.Data.List.Basic

/-! # White space around the beginning of the input

A condition on the beginning of the input may trim the input.  Case is ignored only after that, by
lower-casing what is left as a whole, and lower-casing looks at the neighbours of a capital sigma.
White space is no neighbour that matters: it is neither cased nor ignorable, so a text between white
space is lower-cased as it would be on its own (`lowered_padded`).  Nor does lower-casing make white
space of anything else (`Tight.lowered`).  So it does not matter whether a text is trimmed before
case is ignored or after it.

Trimming the input therefore loses nothing if the value has no white space at its ends
(`prefixHolds_trimming`).  The value itself is never trimmed.  White space that it begins with is
looked for at the beginning of a text that has none there, so the condition is never true, and white
space that it ends with has to be found in the input (`prefixHolds_paddedValue`).
-/
namespace IntentSelect

namespace Text
variable {before middle after start rest cs : List Char} {c : Char}

open Unicode

/-! ## White space has no case -/

/-- The code points of white space. -/
def blankCodes : List Nat := blankSpans.flatMap fun s => List.range' s.first s.size

theorem mem_blankCodes (h : isBlank c = true) : c.toNat ∈ blankCodes := by
  obtain ⟨s, hs, hc⟩ := List.any_eq_true.mp h
  obtain ⟨hfirst, hlast⟩ := (Span.contains_iff s c.toNat).mp hc
  refine List.mem_flatMap.mpr ⟨s, hs, List.mem_range'_1.mpr ⟨hfirst, ?_⟩⟩
  rw [Span.size]
  omega

/-- White space is in none of the tables of letters. -/
theorem tables_of_mem_blankCodes :
    ∀ n ∈ blankCodes, casedSpans.any (·.contains n) = false ∧
      caseIgnorableSpans.any (·.contains n) = false ∧
      lowerRuns.find? (·.holds n) = none := by
  decide +kernel

theorem isCased_of_isBlank (h : isBlank c = true) : isCased c = false := by
  obtain ⟨hcased, -, -⟩ := tables_of_mem_blankCodes _ (mem_blankCodes h)
  exact hcased

theorem isCaseIgnorable_of_isBlank (h : isBlank c = true) : isCaseIgnorable c = false := by
  obtain ⟨-, hignorable, -⟩ := tables_of_mem_blankCodes _ (mem_blankCodes h)
  exact hignorable

theorem ne_sigma_of_isBlank (h : isBlank c = true) : c ≠ 'Σ' := by
  rintro rfl
  exact absurd h (by decide)

/-- White space is its own lower-case form. -/
theorem lowerChar_of_isBlank (h : isBlank c = true) : lowerChar c = [c] := by
  obtain ⟨-, -, hrun⟩ := tables_of_mem_blankCodes _ (mem_blankCodes h)
  have hne : c ≠ 'İ' := by
    rintro rfl
    exact absurd h (by decide)
  rw [lowerChar, if_neg hne, hrun]

/-- A number that is no code point stands for the character zero. -/
theorem toNat_ofNat (n : Nat) : (Char.ofNat n).toNat = n ∨ (Char.ofNat n).toNat = 0 := by
  by_cases h : n.isValidChar
  · left
    rw [Char.ofNat, dif_pos h]
    rfl
  · right
    rw [Char.ofNat, dif_neg h]
    rfl

/-- Nothing else has white space in its lower-case form. -/
theorem isBlank_of_mem_lowerChar {d : Char} (h : isBlank c = false) (hd : d ∈ lowerChar c) :
    isBlank d = false := by
  have htable : ∀ r ∈ lowerRuns, ∀ s ∈ blankSpans,
      0 < s.first ∧ (r.image + (r.last - r.first) < s.first ∨ s.last < r.image) := by
    decide +kernel
  unfold lowerChar at hd
  split at hd
  · -- the two characters of the dotted capital
    obtain rfl | rfl : d = 'i' ∨ d = '\u0307' := by simpa using hd
    · decide
    · decide
  · split at hd
    · next r hr =>
      obtain rfl := List.mem_singleton.mp hd
      have hholds := List.find?_some hr
      simp only [LowerRun.holds, Bool.and_eq_true, decide_eq_true_eq] at hholds
      refine Bool.eq_false_iff.mpr fun hblank => ?_
      obtain ⟨s, hs, hcontains⟩ := List.any_eq_true.mp hblank
      obtain ⟨hfirst, hlast⟩ := (Span.contains_iff s _).mp hcontains
      have hapart := htable r (List.mem_of_find?_eq_some hr) s hs
      rcases toNat_ofNat (r.image + (c.toNat - r.first)) with himage | hzero <;> omega
    · rwa [List.mem_singleton.mp hd]

theorem lowerChar_ne_nil (c : Char) : lowerChar c ≠ [] := by
  unfold lowerChar
  split
  · exact List.cons_ne_nil _ _
  · split <;> exact List.cons_ne_nil _ _

/-- The form of a character between its neighbours begins and ends with something that is seen, if
the character is seen. -/
theorem visible_lowered (h : isBlank c = false) {d : Char}
    (hd : d ∈ if c = 'Σ' then [lowerSigma before rest] else lowerChar c) : isBlank d = false := by
  split at hd
  · rw [List.mem_singleton.mp hd, lowerSigma]
    split <;> decide
  · exact isBlank_of_mem_lowerChar h hd

theorem lowered_char_ne_nil (c : Char) (before rest : List Char) :
    (if c = 'Σ' then [lowerSigma before rest] else lowerChar c) ≠ [] := by
  split
  · exact List.cons_ne_nil _ _
  · exact lowerChar_ne_nil c

/-! ## White space as a neighbour -/

theorem casedNext_of_allBlank (h : AllBlank cs) : casedNext cs = false := by
  cases cs with
  | nil => rfl
  | cons c cs =>
    have hc := h c List.mem_cons_self
    have hnot : ¬ isCaseIgnorable c = true := by simp [isCaseIgnorable_of_isBlank hc]
    rw [casedNext, List.dropWhile_cons_of_neg hnot]
    exact isCased_of_isBlank hc

/-- White space further away is no neighbour. -/
theorem casedNext_append_of_allBlank (h : AllBlank after) (cs : List Char) :
    casedNext (cs ++ after) = casedNext cs := by
  by_cases hcs : ∀ c ∈ cs, isCaseIgnorable c = true
  · rw [casedNext_append_of_ignorable hcs, casedNext_of_ignorable hcs, casedNext_of_allBlank h]
  · exact casedNext_append_of_not_ignorable hcs

/-- Nor does it matter if it comes before a text. -/
theorem lowerAfter_append_before (h : AllBlank after) (before cs : List Char) :
    lowerAfter (before ++ after) cs = lowerAfter before cs := by
  induction cs generalizing before with
  | nil => rfl
  | cons c cs ih =>
    have hsigma : lowerSigma (before ++ after) cs = lowerSigma before cs := by
      rw [lowerSigma, casedNext_append_of_allBlank h, lowerSigma]
    rw [lowerAfter_cons, lowerAfter_cons, hsigma, ← List.cons_append, ih]

/-- A text that is not cut at a sigma is lower-cased part by part. -/
theorem lowerAfter_append (h : ¬ CutsAtSigma before start rest) :
    lowerAfter before (start ++ rest) =
      lowerAfter before start ++ lowerAfter (start.reverse ++ before) rest := by
  induction start generalizing before with
  | nil => rfl
  | cons c cs ih =>
    rw [cutsAtSigma_cons_iff, not_or] at h
    obtain ⟨hhere, hlater⟩ := h
    have hform : (if c = 'Σ' then [lowerSigma before (cs ++ rest)] else lowerChar c) =
        if c = 'Σ' then [lowerSigma before cs] else lowerChar c := by
      by_cases hc : c = 'Σ'
      · rw [if_pos hc, if_pos hc, lowerSigma_append_eq_iff.mpr fun hcut => hhere ⟨hc, hcut⟩]
      · rw [if_neg hc, if_neg hc]
    rw [List.cons_append, lowerAfter_cons, lowerAfter_cons, hform, ih hlater, List.append_assoc,
      List.reverse_cons, List.append_assoc, List.singleton_append]

theorem lowerAfter_of_allBlank (h : AllBlank cs) (before : List Char) :
    lowerAfter before cs = cs := by
  induction cs generalizing before with
  | nil => rfl
  | cons c cs ih =>
    obtain ⟨hc, hcs⟩ := List.forall_mem_cons.mp h
    rw [lowerAfter_cons, if_neg (ne_sigma_of_isBlank hc), lowerChar_of_isBlank hc, ih hcs]
    rfl

/-- **Between white space a text is lower-cased as on its own.** -/
theorem lowered_padded (hbefore : AllBlank before) (hafter : AllBlank after)
    (middle : List Char) :
    lowered (before ++ middle ++ after) = before ++ lowered middle ++ after := by
  have hfront : ¬ CutsAtSigma [] before (middle ++ after) :=
    not_cutsAtSigma_of_not_mem fun hmem => ne_sigma_of_isBlank (hbefore _ hmem) rfl
  have hback : ¬ CutsAtSigma before.reverse middle after := by
    rintro ⟨-, -, -, -, -, hcased⟩
    rw [casedNext_of_allBlank hafter] at hcased
    cases hcased
  have hreverse : AllBlank before.reverse := fun c hc => hbefore c (List.mem_reverse.mp hc)
  have halone := lowerAfter_append_before hreverse [] middle
  rw [List.nil_append] at halone
  rw [lowered, List.append_assoc, lowerAfter_append hfront, lowerAfter_of_allBlank hbefore,
    List.append_nil, lowerAfter_append hback, lowerAfter_of_allBlank hafter, halone, lowered,
    List.append_assoc]

/-! ## The ends of lower-case forms -/

theorem lowerAfter_ne_nil (h : cs ≠ []) (before : List Char) : lowerAfter before cs ≠ [] := by
  cases cs with
  | nil => exact absurd rfl h
  | cons c cs =>
    rw [lowerAfter_cons]
    exact List.append_ne_nil_of_left_ne_nil (lowered_char_ne_nil c before cs) _

theorem getLast?_lowerAfter (h : ∀ c ∈ cs.getLast?, isBlank c = false) (before : List Char) :
    ∀ d ∈ (lowerAfter before cs).getLast?, isBlank d = false := by
  induction cs generalizing before with
  | nil => nofun
  | cons c cs ih =>
    rw [lowerAfter_cons]
    cases cs with
    | nil =>
      rw [lowerAfter, List.append_nil]
      exact fun d hd => visible_lowered (h c rfl) (List.mem_of_getLast? hd)
    | cons c' cs =>
      rw [List.getLast?_append_of_ne_nil _ (lowerAfter_ne_nil (List.cons_ne_nil c' cs) _)]
      exact ih h _

/-- **What has no white space at its ends has none there in lower case.** -/
theorem Tight.lowered (h : Tight cs) : Tight (lowered cs) := by
  refine ⟨?_, getLast?_lowerAfter h.last []⟩
  cases cs with
  | nil => nofun
  | cons c cs =>
    intro d hd
    rw [Text.lowered, lowerAfter_cons,
      List.head?_append_of_ne_nil _ (lowered_char_ne_nil c [] cs)] at hd
    exact visible_lowered (h.head c rfl) (List.mem_of_head? hd)

end Text

namespace Condition
open Text
variable {c : Condition} {ctx : Context} {input value : String} {before middle after cs : List Char}

/-! ## What is compared -/

/-- A text as it is compared: in lower case if the condition ignores case. -/
def folded (c : Condition) (cs : List Char) : List Char := if c.ignoresCase then lowered cs else cs

theorem folded_padded (c : Condition) (hbefore : AllBlank before) (hafter : AllBlank after)
    (middle : List Char) :
    c.folded (before ++ middle ++ after) = before ++ c.folded middle ++ after := by
  unfold folded
  split
  · exact lowered_padded hbefore hafter middle
  · rfl

theorem tight_folded (c : Condition) (h : Tight cs) : Tight (c.folded cs) := by
  unfold folded
  split
  · exact h.lowered
  · exact h

theorem folded_ne_nil (c : Condition) (h : cs ≠ []) : c.folded cs ≠ [] := by
  unfold folded
  split
  · exact lowerAfter_ne_nil h []
  · exact h

theorem toList_subject (c : Condition) (input : String) :
    (c.subject input).toList = if c.trims then trimmed input.toList else input.toList := by
  unfold subject
  split
  · exact toList_trim input
  · rfl

/-- A condition on the beginning of the input as one comparison. -/
theorem prefixHolds_iff_folded : c.prefixHolds ctx = true ↔
    ∃ input value, ctx.input = some input ∧ c.value = some value ∧
      hasText input = true ∧ hasText value = true ∧
      c.folded value.toList <+: c.folded (c.subject input).toList := by
  have hbegins (input value : String) :
      (if c.ignoresCase then beginsWith (lowercase (c.subject input)) (lowercase value)
        else beginsWith (c.subject input) value) = true ↔
      c.folded value.toList <+: c.folded (c.subject input).toList := by
    unfold folded
    split
    · rw [beginsWith, List.isPrefixOf_iff_prefix, toList_lowercase, toList_lowercase]
    · rw [beginsWith, List.isPrefixOf_iff_prefix]
  rw [prefixHolds_iff]
  simp only [hbegins]

/-! ## White space around the input -/

/-- A condition that trims sees no more of the input than trimming leaves. -/
theorem prefixHolds_congr_trimmed {input' : String} (htrim : c.trims = true)
    (h : trimmed input.toList = trimmed input'.toList) :
    c.prefixHolds { ctx with input := some input } =
      c.prefixHolds { ctx with input := some input' } := by
  have hmono {input input' : String} (h : trimmed input.toList = trimmed input'.toList)
      (hholds : c.prefixHolds { ctx with input := some input } = true) :
      c.prefixHolds { ctx with input := some input' } = true := by
    obtain ⟨s, value, hs, hvalue, htext, htext', hstart⟩ := prefixHolds_iff_folded.mp hholds
    obtain rfl := Option.some.inj hs
    rw [toList_subject, if_pos htrim, h] at hstart
    rw [hasText_iff_trimmed, h] at htext
    refine prefixHolds_iff_folded.mpr ⟨input', value, rfl, hvalue, ?_, htext', ?_⟩
    · rwa [hasText_iff_trimmed]
    · rwa [toList_subject, if_pos htrim]
  exact Bool.eq_iff_iff.mpr ⟨hmono h, hmono h.symm⟩

/-- **Trimming loses nothing.**  Take a condition on the beginning of the input that trims, with
case counting or not, whose value has no white space at its ends.  White space that is added before
or after the input changes nothing, and if the condition holds without trimming it holds. -/
theorem prefixHolds_trimming (htrim : c.trims = true)
    (hvalue : ∀ value, c.value = some value → Tight value.toList) (ctx : Context) :
    (∀ input before after : String, hasText before = false → hasText after = false →
      c.prefixHolds { ctx with input := some (before ++ input ++ after) } =
        c.prefixHolds { ctx with input := some input }) ∧
    (∀ trim, ({ c with trim := trim } : Condition).prefixHolds ctx = true →
      c.prefixHolds ctx = true) := by
  refine ⟨fun input before after hbefore hafter => ?_, fun trim hholds => ?_⟩
  · refine prefixHolds_congr_trimmed htrim ?_
    rw [String.toList_append, String.toList_append]
    exact trimmed_append ((allBlank_iff before).mpr hbefore) ((allBlank_iff after).mpr hafter) _
  · obtain ⟨input, value, hinput, hcvalue, htext, htext', hstart⟩ :=
      prefixHolds_iff_folded.mp hholds
    refine prefixHolds_iff_folded.mpr ⟨input, value, hinput, hcvalue, htext, htext', ?_⟩
    have hfolded (cs : List Char) : ({ c with trim := trim } : Condition).folded cs = c.folded cs :=
      rfl
    rw [hfolded, hfolded, toList_subject] at hstart
    rw [toList_subject, if_pos htrim]
    split at hstart
    · exact hstart
    · -- the input is what trimming leaves of it, between white space
      obtain ⟨before, after, hbefore, hafter, hpadded⟩ := eq_padded input.toList
      rw [hpadded, c.folded_padded hbefore hafter] at hstart
      have htight := hvalue value hcvalue
      have hne : value.toList ≠ [] := by
        rw [← htight.trimmed_eq]
        exact (hasText_iff_trimmed value).mp htext'
      exact (c.tight_folded htight).prefix_of_padded (c.folded_ne_nil hne) hbefore hafter hstart

/-- The sigma before the white space ends its word, and goes on to end it. -/
theorem prefixHolds_trimming_street :
    let c : Condition :=
      { kind := "message_prefix", value := some "οδος", ignoreCase := some true, trim := some true }
    let ctx : Context := { input := some "ΟΔΟΣ\u3000" }
    c.trims = true ∧ (∀ value, c.value = some value → Tight value.toList) ∧
      ({ c with trim := none } : Condition).prefixHolds ctx = true ∧ c.prefixHolds ctx = true ∧
      c.prefixHolds { ctx with input := some "\t ΟΔΟΣ\u3000 " } = true := by
  intro c ctx
  have htight : ∀ value, c.value = some value → Tight value.toList := by
    intro value hvalue
    obtain rfl := Option.some.inj hvalue
    refine ⟨fun c hc => ?_, fun c hc => ?_⟩
    · obtain rfl := Option.some.inj hc
      decide
    · obtain rfl := Option.some.inj hc
      decide
  have huntrimmed : ({ c with trim := none } : Condition).prefixHolds ctx = true := by
    decide +kernel
  obtain ⟨hadded, hkept⟩ := prefixHolds_trimming (c := c) rfl htight ctx
  have hholds : c.prefixHolds ctx = true := hkept none huntrimmed
  refine ⟨rfl, htight, huntrimmed, hholds, ?_⟩
  exact (hadded "ΟΔΟΣ\u3000" "\t " " " (by decide) (by decide)).trans hholds

/-! ## White space around the value -/

/-- **The value is not trimmed.**  Take a condition on the beginning of the input that trims, and a
value that is not blank.  If the value begins with white space, the condition never holds, whatever
the context.  Otherwise it holds exactly if it holds with the trimmed value and the white space that
the value ends with comes next in the input. -/
theorem prefixHolds_paddedValue (htrim : c.trims = true) (hvalue : c.value = some value)
    (htext : hasText value = true) :
    ∃ before after, AllBlank before ∧ AllBlank after ∧
      value.toList = before ++ (Text.trim value).toList ++ after ∧
      (before ≠ [] → ∀ ctx, c.prefixHolds ctx = false) ∧
      (before = [] → ∀ ctx, c.prefixHolds ctx = true ↔
        ({ c with value := some (Text.trim value) } : Condition).prefixHolds ctx = true ∧
          ∃ input rest, ctx.input = some input ∧
            c.folded (c.subject input).toList =
              c.folded (Text.trim value).toList ++ after ++ rest) := by
  obtain ⟨before, after, hbefore, hafter, hpadded⟩ := eq_padded value.toList
  rw [← toList_trim] at hpadded
  have hfolded : c.folded value.toList = before ++ c.folded (Text.trim value).toList ++ after := by
    calc c.folded value.toList = c.folded (before ++ (Text.trim value).toList ++ after) := by
          rw [← hpadded]
      _ = before ++ c.folded (Text.trim value).toList ++ after := c.folded_padded hbefore hafter _
  refine ⟨before, after, hbefore, hafter, hpadded, fun hne ctx => ?_, fun hnil ctx => ?_⟩
  · refine Bool.eq_false_iff.mpr fun hholds => hne ?_
    obtain ⟨input, value', hinput, hvalue', -, -, hstart⟩ := prefixHolds_iff_folded.mp hholds
    obtain rfl := Option.some.inj (hvalue.symm.trans hvalue')
    rw [hfolded, List.append_assoc, toList_subject, if_pos htrim] at hstart
    have htight := c.tight_folded (tight_trimmed input.toList)
    exact eq_nil_of_prefix htight.head hbefore ((List.prefix_append _ _).trans hstart)
  · rw [hnil, List.nil_append] at hfolded
    have htrimmed : hasText (Text.trim value) = true := by
      rw [hasText_iff_trimmed, toList_trim, (tight_trimmed _).trimmed_eq]
      exact (hasText_iff_trimmed value).mp htext
    constructor
    · intro hholds
      obtain ⟨input, value', hinput, hvalue', hinputText, -, hstart⟩ :=
        prefixHolds_iff_folded.mp hholds
      obtain rfl := Option.some.inj (hvalue.symm.trans hvalue')
      rw [hfolded] at hstart
      obtain ⟨rest, hrest⟩ := hstart
      have hstart := (List.prefix_append (c.folded (Text.trim value).toList) after).trans
        ⟨rest, hrest⟩
      exact ⟨prefixHolds_iff_folded.mpr
        ⟨input, Text.trim value, hinput, rfl, hinputText, htrimmed, hstart⟩,
        input, rest, hinput, hrest.symm⟩
    · rintro ⟨hholds, input, rest, hinput, hrest⟩
      obtain ⟨input', -, hinput', -, hinputText, -, -⟩ := prefixHolds_iff_folded.mp hholds
      obtain rfl := Option.some.inj (hinput.symm.trans hinput')
      refine prefixHolds_iff_folded.mpr ⟨input, value, hinput, hvalue, hinputText, htext, ?_⟩
      rw [hfolded, hrest]
      exact List.prefix_append _ _

namespace Padded

/-- A condition that trims the input and looks for a value at its beginning. -/
def greeting (value : String) (ignoresCase : Bool) : Condition :=
  { kind := "message_prefix", value := some value, ignoreCase := some ignoresCase,
    trim := some true }

def visit : Context := { input := some "hi there" }

end Padded

open Padded in
/-- With white space before it no greeting is ever found. -/
theorem prefixHolds_paddedValue_greeting :
    (greeting " hi" false).trims = true ∧ (greeting " hi" false).value = some " hi" ∧
      hasText " hi" = true ∧ ∀ ctx, (greeting " hi" false).prefixHolds ctx = false := by
  have htext : hasText " hi" = true := by decide
  obtain ⟨before, after, -, -, hpadded, hnever, -⟩ :=
    prefixHolds_paddedValue (c := greeting " hi" false) rfl rfl htext
  refine ⟨rfl, rfl, htext, hnever ?_⟩
  rintro rfl
  have hlists : [' ', 'h', 'i'] = ['h', 'i'] ++ after := hpadded
  cases hlists

open Padded in
/-- **A value and its trimmed form do not always give the same**, whether case is ignored or not:
the trimmed greeting is found, and the one with white space before it is not. -/
theorem prefixHolds_trimmedValue_ne :
    (greeting " hi" false).prefixHolds visit = false ∧
      (greeting (Text.trim " hi") false).prefixHolds visit = true ∧
      (greeting " hi" true).prefixHolds visit = false ∧
      (greeting (Text.trim " hi") true).prefixHolds visit = true := by
  decide +kernel

end Condition

end IntentSelect
