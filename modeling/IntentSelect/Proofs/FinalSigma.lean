import IntentSelect.Matcher.BuiltIn

/-! # Beginnings of texts in lower case

Every character has a lower-case form of its own but the capital sigma, which looks at what stands
before and after it.  So the lower-case form of the beginning of a text need not be a beginning of
the lower-case form of the text: a sigma that ends a word in the one may stand within a word in the
other.  This is the only way in which it can fail (`lowerAfter_prefix_iff`), and it happens at the
last capital sigma of the beginning if nothing but ignorable characters follows it there
(`CutsAtSigma`).

A condition on the beginning of the input that holds thus goes on to hold if it ignores case, unless
its value cuts a word of the input at a capital sigma (`prefixHolds_ignoringCase`).
-/
namespace IntentSelect

namespace Text
variable {before start rest between : List Char}

/-! ## Cased neighbours -/

theorem casedNext_append_of_ignorable (h : ∀ c ∈ between, isCaseIgnorable c = true) :
    casedNext (between ++ rest) = casedNext rest := by
  rw [casedNext, List.dropWhile_append_of_pos h, casedNext]

theorem casedNext_of_ignorable (h : ∀ c ∈ between, isCaseIgnorable c = true) :
    casedNext between = false := by
  have hrest := @casedNext_append_of_ignorable [] between h
  rwa [List.append_nil] at hrest

/-- A character that is not ignorable settles what is next, whatever follows. -/
theorem casedNext_append_of_not_ignorable (h : ¬ ∀ c ∈ between, isCaseIgnorable c = true) :
    casedNext (between ++ rest) = casedNext between := by
  induction between with
  | nil => exact absurd (List.forall_mem_nil _) h
  | cons c cs ih =>
    by_cases hc : isCaseIgnorable c = true
    · have hcs : ¬ ∀ d ∈ cs, isCaseIgnorable d = true :=
        fun hcs => h (List.forall_mem_cons.mpr ⟨hc, hcs⟩)
      have hstep := ih hcs
      unfold casedNext at hstep ⊢
      rwa [List.cons_append, List.dropWhile_cons_of_pos hc, List.dropWhile_cons_of_pos hc]
    · unfold casedNext
      rw [List.cons_append, List.dropWhile_cons_of_neg hc, List.dropWhile_cons_of_neg hc]

/-! ## The sigma at a cut -/

/-- A text that stands after `before` is cut into `start` and `rest` within a word, right after a
capital sigma: nothing but ignorable characters lies between the sigma and the cut, and the nearest
other characters before the sigma and after the cut are cased. -/
def CutsAtSigma (before start rest : List Char) : Prop :=
  ∃ front between, start = front ++ 'Σ' :: between ∧
    casedNext (front.reverse ++ before) = true ∧
    (∀ c ∈ between, isCaseIgnorable c = true) ∧ casedNext rest = true

/-- The form of a sigma depends on what follows only if it is at the cut. -/
theorem lowerSigma_append_eq_iff : lowerSigma before (start ++ rest) = lowerSigma before start ↔
    ¬ (casedNext before = true ∧ (∀ c ∈ start, isCaseIgnorable c = true) ∧
      casedNext rest = true) := by
  unfold lowerSigma
  by_cases hstart : ∀ c ∈ start, isCaseIgnorable c = true
  · rw [casedNext_append_of_ignorable hstart, casedNext_of_ignorable hstart]
    cases casedNext before <;> cases casedNext rest <;> simp
    exact hstart
  · rw [casedNext_append_of_not_ignorable hstart]
    exact iff_of_true rfl fun h => hstart h.2.1

theorem not_cutsAtSigma_nil : ¬ CutsAtSigma before [] rest := by
  rintro ⟨front, between, heq, -⟩
  cases front <;> cases heq

theorem cutsAtSigma_cons_iff {c : Char} : CutsAtSigma before (c :: start) rest ↔
    (c = 'Σ' ∧ casedNext before = true ∧ (∀ d ∈ start, isCaseIgnorable d = true) ∧
      casedNext rest = true) ∨ CutsAtSigma (c :: before) start rest := by
  constructor
  · rintro ⟨front, between, heq, hbefore, hbetween, hrest⟩
    cases front with
    | nil =>
      obtain ⟨rfl, rfl⟩ := List.cons.inj heq
      exact .inl ⟨rfl, hbefore, hbetween, hrest⟩
    | cons d front =>
      obtain ⟨rfl, rfl⟩ := List.cons.inj heq
      refine .inr ⟨front, between, rfl, ?_, hbetween, hrest⟩
      rwa [List.reverse_cons, List.append_assoc] at hbefore
  · rintro (⟨rfl, hbefore, hstart, hrest⟩ | ⟨front, between, rfl, hbefore, hbetween, hrest⟩)
    · exact ⟨[], start, rfl, hbefore, hstart, hrest⟩
    · refine ⟨c :: front, between, rfl, ?_, hbetween, hrest⟩
      rwa [List.reverse_cons, List.append_assoc]

/-- **The lower-case form of the beginning of a text is a beginning of the lower-case form** unless
a word is cut at a capital sigma. -/
theorem lowerAfter_prefix_iff (before start rest : List Char) :
    lowerAfter before start <+: lowerAfter before (start ++ rest) ↔
      ¬ CutsAtSigma before start rest := by
  induction start generalizing before with
  | nil => exact iff_of_true (List.nil_prefix) not_cutsAtSigma_nil
  | cons c cs ih =>
    rw [List.cons_append, lowerAfter_cons, lowerAfter_cons, cutsAtSigma_cons_iff, not_or, ← ih]
    by_cases hc : c = 'Σ'
    · rw [if_pos hc, if_pos hc, List.singleton_append, List.singleton_append, List.cons_prefix_cons,
        eq_comm, lowerSigma_append_eq_iff]
      simp only [hc, true_and]
    · rw [if_neg hc, if_neg hc, List.prefix_append_right_inj]
      simp only [hc, false_and, not_false_eq_true, true_and]

/-- Without a capital sigma nothing is cut. -/
theorem not_cutsAtSigma_of_not_mem (h : 'Σ' ∉ start) : ¬ CutsAtSigma before start rest := by
  rintro ⟨front, between, rfl, -⟩
  exact h (List.mem_append_right _ List.mem_cons_self)

end Text

namespace Condition
open Text
variable {c : Condition} {ctx : Context}

/-- What of the input is compared with the value of a condition. -/
def subject (c : Condition) (input : String) : String := if c.trims then Text.trim input else input

/-- The value of a condition cuts a word of the input at a capital sigma. -/
def CutsInput (c : Condition) (ctx : Context) : Prop :=
  ∃ input value rest, ctx.input = some input ∧ c.value = some value ∧
    (c.subject input).toList = value.toList ++ rest ∧ CutsAtSigma [] value.toList rest

theorem beginsWith_eq_true_iff {text start : String} :
    beginsWith text start = true ↔ ∃ rest, text.toList = start.toList ++ rest := by
  rw [beginsWith, List.isPrefixOf_iff_prefix]
  exact ⟨fun ⟨rest, h⟩ => ⟨rest, h.symm⟩, fun ⟨rest, h⟩ => ⟨rest, h.symm⟩⟩

theorem beginsWith_lowercase_iff {text start : String} {rest : List Char}
    (h : text.toList = start.toList ++ rest) :
    beginsWith (lowercase text) (lowercase start) = true ↔ ¬ CutsAtSigma [] start.toList rest := by
  rw [beginsWith, List.isPrefixOf_iff_prefix, toList_lowercase, toList_lowercase, h]
  exact lowerAfter_prefix_iff [] start.toList rest

/-- When a condition on the beginning of the input holds. -/
theorem prefixHolds_iff : c.prefixHolds ctx = true ↔
    ∃ input value, ctx.input = some input ∧ c.value = some value ∧
      hasText input = true ∧ hasText value = true ∧
      (if c.ignoresCase then beginsWith (lowercase (c.subject input)) (lowercase value)
        else beginsWith (c.subject input) value) = true := by
  constructor
  · intro h
    unfold prefixHolds at h
    split at h
    · next input value hinput hvalue =>
      obtain ⟨hinput, htext⟩ := whenText_eq_some_iff.mp hinput
      obtain ⟨hvalue, htext'⟩ := whenText_eq_some_iff.mp hvalue
      exact ⟨input, value, hinput, hvalue, htext, htext', h⟩
    · cases h
  · rintro ⟨input, value, hinput, hvalue, htext, htext', h⟩
    have hinput := whenText_eq_some_iff.mpr ⟨hinput, htext⟩
    have hvalue := whenText_eq_some_iff.mpr ⟨hvalue, htext'⟩
    simp only [prefixHolds, hinput, hvalue]
    exact h

/-- **Ignoring case keeps what holds, unless a word is cut at a capital sigma.**  Let a condition on
the beginning of the input hold with case counting.  If it ignores case instead, it holds exactly if
its value does not cut a word of the input at a capital sigma; so it does whenever there is no
capital sigma in the value. -/
theorem prefixHolds_ignoringCase (hcase : c.ignoresCase = false) (h : c.prefixHolds ctx = true) :
    (({ c with ignoreCase := some true } : Condition).prefixHolds ctx = true ↔
      ¬ c.CutsInput ctx) ∧
    ((∀ value, c.value = some value → 'Σ' ∉ value.toList) →
      ({ c with ignoreCase := some true } : Condition).prefixHolds ctx = true) := by
  obtain ⟨input, value, hinput, hvalue, htext, htext', hbegins⟩ := prefixHolds_iff.mp h
  rw [hcase, if_neg Bool.false_ne_true] at hbegins
  obtain ⟨rest, hrest⟩ := beginsWith_eq_true_iff.mp hbegins
  have hcuts : c.CutsInput ctx ↔ CutsAtSigma [] value.toList rest := by
    constructor
    · rintro ⟨input', value', rest', hinput', hvalue', hrest', hcut⟩
      obtain rfl := Option.some.inj (hinput.symm.trans hinput')
      obtain rfl := Option.some.inj (hvalue.symm.trans hvalue')
      rwa [List.append_cancel_left (hrest.symm.trans hrest')]
    · exact fun hcut => ⟨input, value, rest, hinput, hvalue, hrest, hcut⟩
  have hiff : ({ c with ignoreCase := some true } : Condition).prefixHolds ctx = true ↔
      ¬ c.CutsInput ctx := by
    rw [hcuts, ← beginsWith_lowercase_iff hrest, prefixHolds_iff]
    constructor
    · rintro ⟨input', value', hinput', hvalue', -, -, hlower⟩
      obtain rfl := Option.some.inj (hinput.symm.trans hinput')
      obtain rfl := Option.some.inj (hvalue.symm.trans hvalue')
      exact hlower
    · exact fun hlower => ⟨input, value, hinput, hvalue, htext, htext', hlower⟩
  refine ⟨hiff, fun hsigma => hiff.mpr fun hcut => ?_⟩
  exact not_cutsAtSigma_of_not_mem (hsigma value hvalue) (hcuts.mp hcut)

/-- A word that ends in a sigma, and the word after it in the input. -/
theorem prefixHolds_ignoringCase_street :
    let c : Condition := { kind := "message_prefix", value := some "ΟΔΟΣ", trim := some true }
    let ctx : Context := { input := some " ΟΔΟΣ ΑΘΗΝΑΣ" }
    c.ignoresCase = false ∧ c.prefixHolds ctx = true ∧ ¬ c.CutsInput ctx ∧
      ({ c with ignoreCase := some true } : Condition).prefixHolds ctx = true := by
  intro c ctx
  have hholds : c.prefixHolds ctx = true := by decide +kernel
  have hlower : ({ c with ignoreCase := some true } : Condition).prefixHolds ctx = true := by
    decide +kernel
  exact ⟨rfl, hholds, (prefixHolds_ignoringCase rfl hholds).1.mp hlower, hlower⟩

/-- The value is the beginning of a word in the input, character by character, but ends in a final
sigma in lower case, where the word goes on after its sigma. -/
theorem not_prefixHolds_ignoringCase_word :
    let c : Condition := { kind := "message_prefix", value := some "ΑΣ" }
    let ctx : Context := { input := some "ΑΣΑ" }
    lowercase "ΑΣΑ" = "ασα" ∧ lowercase "ΑΣ" = "ας" ∧ c.prefixHolds ctx = true ∧
      ({ c with ignoreCase := some true } : Condition).prefixHolds ctx = false := by
  decide +kernel

end Condition

end IntentSelect
