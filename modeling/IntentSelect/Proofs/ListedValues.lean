import IntentSelect.Proofs.EqualTexts
import IntentSelect.Proofs.ExpressionLaws
import IntentSelect.Proofs.Polarity
import IntentSelect.Proofs.TimestampText

/-! # Conditions that list values

A condition of kind `metadata_in` lists values, and holds if what the metadata have under its key is
shown as one of them.  Spelled out it is a disjunction of conditions of kind `metadata_equals`, one
for each value (`Condition.spelledOut`).  The two differ in one thing: a value that is compared on
its own must not be blank, and one in a list may be.  So they give the same result unless the
metadata have a blank text under the key and the list has it too (`Condition.FindsBlank`), in which
case the first is true and the second is not.

The calls of matchers are other ones in any case, so what is carried through the expression around
the condition is the result alone (`Expression.result_replaceAt`).
-/
namespace IntentSelect

open Json Text

/-! ## Results of expressions -/

namespace Expression
variable {decide : Condition → Traced Bool} {e x y : Expression} {es : List Expression}
  {place : List Nat} {go : Bool}

/-- Decides conditions as before, but leaves no trace. -/
def quietly (decide : Condition → Traced Bool) (c : Condition) : Traced Bool :=
  pure (decide c).result

theorem evaluateWhile_quietly (go : Bool)
    (ih : ∀ e ∈ es, e.evaluate (quietly decide) = pure (e.evaluate decide).result) :
    evaluateWhile (quietly decide) go es = pure (evaluateWhile decide go es).result := by
  induction es with
  | nil => rfl
  | cons e es ihes =>
    obtain ⟨he, hes⟩ := List.forall_mem_cons.mp ih
    rw [evaluateWhile, he, pure_bind, evaluateWhile, Traced.result_bind]
    split
    · exact ihes hes
    · rfl

/-- What an expression evaluates to does not depend on the traces of its conditions. -/
theorem evaluate_quietly (e : Expression) :
    e.evaluate (quietly decide) = pure (e.evaluate decide).result := by
  induction e with
  | not child ih =>
    rw [evaluate, ih]
    rfl
  | allOf es ih =>
    rw [evaluate_allOf, evaluate_allOf]
    split
    · rfl
    · exact evaluateWhile_quietly true ih
  | anyOf es ih =>
    rw [evaluate_anyOf, evaluate_anyOf]
    split
    · rfl
    · exact evaluateWhile_quietly false ih
  | condition c => rfl
  | empty => rfl

/-- **What gives the same result may stand in for each other anywhere**, as far as results go. -/
theorem result_replaceAt (hx : e.at? place = some x)
    (h : (y.evaluate decide).result = (x.evaluate decide).result) :
    ((e.replaceAt place y).evaluate decide).result = (e.evaluate decide).result := by
  have hquiet : y.evaluate (quietly decide) = x.evaluate (quietly decide) := by
    rw [evaluate_quietly, evaluate_quietly, h]
  have hwhole := congrArg Traced.result (evaluate_replaceAt hx hquiet)
  rwa [evaluate_quietly, evaluate_quietly] at hwhole

end Expression

/-! ## Texts of values -/

/-- A text of a value begins with something that is seen. -/
theorem Json.Spells.exists_visible {v : Value} {cs : List Char} (h : Spells v cs) :
    ∃ c rest, cs = c :: rest ∧ isBlank c = false := by
  cases h with
  | null => exact ⟨_, _, rfl, by decide⟩
  | bool b => cases b <;> exact ⟨_, _, rfl, by decide⟩
  | number hn =>
    obtain ⟨c, rest, hcs, rfl | hdigit⟩ := hn.exists_cons
    · exact ⟨_, rest, hcs, by decide⟩
    · exact ⟨c, rest, hcs, Timestamp.isBlank_of_isDigit hdigit⟩
  | notFinite _ => exact ⟨_, _, rfl, by decide⟩
  | string _ => exact ⟨_, _, rfl, by decide⟩
  | array _ => exact ⟨_, _, rfl, by decide⟩
  | object _ => exact ⟨_, _, rfl, by decide⟩

theorem Json.Value.hasText_compact (v : Value) : hasText v.compact = true := by
  obtain ⟨c, rest, hchars, hc⟩ := (spells_chars v).exists_visible
  rw [Value.compact, hasText_iff, String.toList_ofList, hchars]
  exact ⟨c, List.mem_cons_self, hc⟩

/-- Only a text is shown as something blank. -/
theorem Json.Value.eq_string_of_text?_blank {v : Value} {s : String} (h : v.text? = some s)
    (hs : hasText s = false) : v = .string s := by
  cases hv : v.isText with
  | true =>
    obtain ⟨t, rfl⟩ := exists_of_isText hv
    exact congrArg string (Option.some.inj h)
  | false =>
    have hnull : v ≠ .null := by
      rintro rfl
      cases h
    rw [text?_of_isText_eq_false hnull hv] at h
    rw [← Option.some.inj h, hasText_compact] at hs
    cases hs

/-! ## The two conditions -/

namespace Condition
variable {c : Condition} {ctx : Context} {key s : String}

/-- What the metadata have under the condition's key is shown as the text; the key must not be
blank. -/
def Finds (c : Condition) (ctx : Context) (s : String) : Prop :=
  ∃ key, whenText c.key = some key ∧ (ctx.metadataValue key).bind Value.text? = some s

/-- The metadata have a blank text under the condition's key, and the condition lists it. -/
def FindsBlank (c : Condition) (ctx : Context) : Prop :=
  ∃ key s, c.key = some key ∧ ctx.metadataValue key = some (.string s) ∧ hasText s = false ∧
    s ∈ c.values

theorem metadataEquals_iff :
    c.metadataEquals ctx = true ↔ ∃ s, c.Finds ctx s ∧ whenText c.value = some s := by
  unfold metadataEquals Finds
  cases hkey : whenText c.key with
  | none => simp
  | some key =>
    simp only [Option.some.injEq, exists_eq_left', isShownAs_eq_true_iff]
    exact exists_congr fun s => and_comm

theorem metadataAmong_iff :
    c.metadataAmong ctx = true ↔ ∃ s, c.Finds ctx s ∧ s ∈ c.values := by
  unfold metadataAmong Finds
  cases hkey : whenText c.key with
  | none => simp
  | some key =>
    cases hfound : (ctx.metadataValue key).bind Value.text? with
    | none => simp [hfound]
    | some s => simp [hfound]

/-- A blank text that is found is one that the metadata have. -/
theorem findsBlank_of_finds (h : c.Finds ctx s) (hs : hasText s = false) (hmem : s ∈ c.values) :
    c.FindsBlank ctx := by
  obtain ⟨key, hkey, hfound⟩ := h
  obtain ⟨v, hv, htext⟩ := Option.bind_eq_some_iff.mp hfound
  obtain rfl := Value.eq_string_of_text?_blank htext hs
  exact ⟨key, s, (whenText_eq_some_iff.mp hkey).1, hv, hs, hmem⟩

/-- The condition that compares with one value what another one compares with several. -/
def single (c : Condition) (value : String) : Condition :=
  { kind := "metadata_equals", key := c.key, value := some value }

/-- The disjunction of the comparisons with each value of a condition, in their order. -/
def spelledOut (c : Condition) : Expression :=
  .anyOf (c.values.map fun value => .condition (c.single value))

theorem metadataEquals_single_iff :
    (c.single s).metadataEquals ctx = true ↔ c.Finds ctx s ∧ hasText s = true := by
  rw [metadataEquals_iff]
  constructor
  · rintro ⟨t, hfinds, ht⟩
    obtain ⟨heq, htext⟩ := whenText_eq_some_iff.mp ht
    obtain rfl := Option.some.inj heq
    exact ⟨hfinds, htext⟩
  · rintro ⟨hfinds, htext⟩
    exact ⟨s, hfinds, whenText_eq_some_iff.mpr ⟨rfl, htext⟩⟩

end Condition

namespace Registry
variable {custom : List Matcher} {config : Config} {ctx : Context} {c : Condition} {kind : String}

/-- A kind that the host leaves free has the built-in matcher. -/
theorem get?_build_of_free (h : ∀ m ∈ custom, m.kind ≠ kind) (config : Config) :
    (build custom config).result.get? kind = builtIn? kind config := by
  have hfilter : (custom.filter fun m => m.kind == kind) = [] :=
    List.filter_eq_nil_iff.mpr fun m hm hkind => h m hm (eq_of_beq hkind)
  rw [get?_build, lastCustom?, hfilter, List.getLast?_nil, ite_self, Option.none_or]

/-- Conditions of such a kind are decided by the built-in matcher. -/
theorem result_decide_of_free {m : Matcher} (h : ∀ m ∈ custom, m.kind ≠ c.kind)
    (hm : builtIn? c.kind config = some m) (ctx : Context) :
    ((build custom config).result.decide ctx c).result = (m.run c ctx).isTrue := by
  have hbeq := List.find?_some hm
  have hkind : m.kind = c.kind := eq_of_beq hbeq
  have htext : hasText c.kind = true :=
    hkind ▸ hasText_of_mem_builtIns (List.mem_of_find?_eq_some hm)
  rw [decide_of_registered ctx htext ((get?_build_of_free h config).trans hm)]

/-- The result of the condition that lists values. -/
theorem result_listed_iff (h : ∀ m ∈ custom, m.kind ≠ "metadata_in") (config : Config)
    (ctx : Context) (hkind : c.kind = "metadata_in") :
    ((build custom config).result.evaluate ctx (.condition c)).result = true ↔
      ∃ s, c.Finds ctx s ∧ s ∈ c.values := by
  rw [← hkind] at h
  have hm : builtIn? c.kind config =
      some ⟨"metadata_in", fun c ctx => .decided (c.metadataAmong ctx)⟩ := by
    rw [hkind]
    rfl
  have hresult := result_decide_of_free h hm ctx
  rw [evaluate, Expression.evaluate, hresult]
  exact Condition.metadataAmong_iff

/-- The result of the disjunction: a blank text does not count. -/
theorem result_spelledOut_iff (h : ∀ m ∈ custom, m.kind ≠ "metadata_equals") (config : Config)
    (ctx : Context) (c : Condition) :
    ((build custom config).result.evaluate ctx c.spelledOut).result = true ↔
      ∃ s, c.Finds ctx s ∧ s ∈ c.values ∧ hasText s = true := by
  have hsingle (s : String) :
      ((build custom config).result.decide ctx (c.single s)).result = true ↔
        c.Finds ctx s ∧ hasText s = true := by
    have hm : builtIn? (c.single s).kind config =
        some ⟨"metadata_equals", fun c ctx => .decided (c.metadataEquals ctx)⟩ := rfl
    rw [result_decide_of_free h hm ctx]
    exact Condition.metadataEquals_single_iff
  rw [evaluate, Condition.spelledOut, Expression.result_anyOf_iff]
  constructor
  · rintro ⟨e, he, hresult⟩
    obtain ⟨s, hs, rfl⟩ := List.mem_map.mp he
    obtain ⟨hfinds, htext⟩ := (hsingle s).mp hresult
    exact ⟨s, hfinds, hs, htext⟩
  · rintro ⟨s, hfinds, hs, htext⟩
    exact ⟨_, List.mem_map.mpr ⟨s, hs, rfl⟩, (hsingle s).mpr ⟨hfinds, htext⟩⟩

/-- **A list of values may be spelled out.**  Suppose that the host has no matchers of its own for
the two kinds.  Take a condition of kind `metadata_in`, and for each of its values the condition of
kind `metadata_equals` with the same key.  Unless the metadata have a blank text under the key that
is one of the values, the disjunction of these may be put in the place of the condition wherever it
stands, and the whole evaluates to the same.  If they have such a text and the key is not blank, the
condition is true and the disjunction is false. -/
theorem evaluate_spelledOut
    (hfree : ∀ m ∈ custom, m.kind ≠ "metadata_in" ∧ m.kind ≠ "metadata_equals") (config : Config)
    (ctx : Context) (hkind : c.kind = "metadata_in") :
    (¬ c.FindsBlank ctx → ∀ (e : Expression) (place : List Nat),
      e.at? place = some (.condition c) →
        ((build custom config).result.evaluate ctx (e.replaceAt place c.spelledOut)).result =
          ((build custom config).result.evaluate ctx e).result) ∧
    (∀ key, c.key = some key → hasText key = true → c.FindsBlank ctx →
      ((build custom config).result.evaluate ctx (.condition c)).result = true ∧
        ((build custom config).result.evaluate ctx c.spelledOut).result = false) := by
  have hlisted := result_listed_iff (fun m hm => (hfree m hm).1) config ctx hkind
  have hspelled := result_spelledOut_iff (fun m hm => (hfree m hm).2) config ctx c
  refine ⟨fun hblank e place hat => ?_, fun key hkey htext hblank => ?_⟩
  · refine Expression.result_replaceAt hat (Bool.eq_iff_iff.mpr ?_)
    rw [evaluate] at hspelled hlisted
    rw [hspelled, hlisted]
    constructor
    · rintro ⟨s, hfinds, hs, -⟩
      exact ⟨s, hfinds, hs⟩
    · rintro ⟨s, hfinds, hs⟩
      refine ⟨s, hfinds, hs, ?_⟩
      by_contra hseen
      exact hblank (Condition.findsBlank_of_finds hfinds (Bool.eq_false_iff.mpr hseen) hs)
  · obtain ⟨key', s, hkey', hfound, hs, hmem⟩ := hblank
    obtain rfl := Option.some.inj (hkey.symm.trans hkey')
    have hfinds : c.Finds ctx s :=
      ⟨key, whenText_eq_some_iff.mpr ⟨hkey, htext⟩, by rw [hfound]; rfl⟩
    refine ⟨hlisted.mpr ⟨s, hfinds, hmem⟩, ?_⟩
    rw [← Bool.not_eq_true, hspelled]
    rintro ⟨t, ⟨key', hkey', hfound'⟩, -, ht⟩
    -- the one text that is found is the blank one
    obtain ⟨hkey', -⟩ := whenText_eq_some_iff.mp hkey'
    obtain rfl := Option.some.inj (hkey.symm.trans hkey')
    rw [hfound] at hfound'
    obtain rfl := Option.some.inj hfound'
    rw [hs] at ht
    cases ht

namespace Tiers

/-- One of the values is blank. -/
def listed : Condition :=
  { kind := "metadata_in", key := some "tier", values := ["gold", " ", "2"] }

/-- Under a negation, and after a condition that does not hold. -/
def whole : Expression := .not (.anyOf [.empty, .condition listed])

/-- The tier is a number. -/
def ranked : Context := { metadata := [("tier", .number (.whole ⟨2, by decide, by decide⟩))] }

/-- The tier is blank. -/
def unranked : Context := { metadata := [("tier", .string " ")] }

/-- A matcher of the host for a kind of its own. -/
def near : Matcher := { kind := "metadata_near", run := fun _ _ => .crashed ⟨none⟩ }

end Tiers

open Tiers in
/-- The number is shown as one of the values.  The blank text is in the list as well, but it equals
none of the values on their own. -/
theorem evaluate_spelledOut_tiers :
    (∀ m ∈ [near], m.kind ≠ "metadata_in" ∧ m.kind ≠ "metadata_equals") ∧
    listed.kind = "metadata_in" ∧ ¬ listed.FindsBlank ranked ∧ listed.FindsBlank unranked ∧
    whole.at? [0, 1] = some (.condition listed) ∧
    ((build [near] {}).result.evaluate ranked (whole.replaceAt [0, 1] listed.spelledOut)).result =
      false ∧
    ((build [near] {}).result.evaluate unranked (.condition listed)).result = true ∧
    ((build [near] {}).result.evaluate unranked listed.spelledOut).result = false := by
  have hfree : ∀ m ∈ [near], m.kind ≠ "metadata_in" ∧ m.kind ≠ "metadata_equals" := by
    intro m hm
    obtain rfl := List.mem_singleton.mp hm
    decide
  have hranked : ¬ listed.FindsBlank ranked := by
    rintro ⟨key, s, hkey, hfound, -, -⟩
    obtain rfl := Option.some.inj hkey
    cases hfound
  have hunranked : listed.FindsBlank unranked :=
    ⟨"tier", " ", rfl, rfl, by decide +kernel, by decide⟩
  have hat : whole.at? [0, 1] = some (.condition listed) := rfl
  obtain ⟨hsame, -⟩ := evaluate_spelledOut hfree {} ranked (c := listed) rfl
  obtain ⟨-, hdiffer⟩ := evaluate_spelledOut hfree {} unranked (c := listed) rfl
  obtain ⟨htrue, hfalse⟩ := hdiffer "tier" rfl (by decide +kernel) hunranked
  exact ⟨hfree, rfl, hranked, hunranked, hat, (hsame hranked whole [0, 1] hat).trans (by rfl),
    htrue, hfalse⟩

end Registry

end IntentSelect
