import IntentSelect.Proofs.ExpressionRoundTrip
import IntentSelect.Proofs.RegistryBuilding
import IntentSelect.Proofs.SpelledValues

/-! # Values that are compared by their texts

Three kinds of conditions ask whether the context has a certain value under a key: in the metadata,
in the state or among the arguments of a tool call (`Holder`).  Of the value that is authored a
condition keeps only the text, and the value that is found is compared by its text too.  What this
makes of equality is `Value.Agrees`: printing is injective, so two values that are not texts have
the same text only if they are the same, and the only confusion is between a value and the text in
which it is printed (`text?_eq_text?_iff`).
-/
namespace IntentSelect

open Json Json.Reading Json.Slot Text

/-! ## The same text -/

namespace Json.Value
variable {v w : Value}

/-- True for texts. -/
def isText : Value → Bool
  | .string _ => true
  | _ => false

/-- The first value is a text and the second is none, and the first is what the second is printed as
without white space. -/
def IsPrintOf (v w : Value) : Prop := v = .string w.compact ∧ w.isText = false

/-- The values are the same, or one is what the other is printed as; neither is `null`, and the text
of the first is not blank. -/
def Agrees (v w : Value) : Prop :=
  v ≠ .null ∧ w ≠ .null ∧ (∃ t ∈ v.text?, hasText t = true) ∧
    (v = w ∨ v.IsPrintOf w ∨ w.IsPrintOf v)

theorem text?_eq_none_iff : v.text? = none ↔ v = .null := by
  cases v <;> simp [text?]

theorem exists_of_isText (h : v.isText = true) : ∃ s, v = .string s := by
  cases v with
  | string s => exact ⟨s, rfl⟩
  | _ => cases h

theorem text?_of_isText_eq_false (hnull : v ≠ .null) (h : v.isText = false) :
    v.text? = some v.compact := by
  cases v with
  | null => exact absurd rfl hnull
  | string s => cases h
  | _ => rfl

/-- A text and a value that is none have the same text if one is what the other is printed as. -/
theorem text?_string_eq_iff {s : String} (hnull : w ≠ .null) (hw : w.isText = false) :
    (string s).text? = w.text? ↔ (string s).IsPrintOf w := by
  rw [text?_of_isText_eq_false hnull hw]
  simp [text?, IsPrintOf, hw]

/-- **When two values have the same text.** -/
theorem text?_eq_text?_iff (hv : v.Ordered) (hw : w.Ordered) (hvfloat : v.isFloatFree = true)
    (hwfloat : w.isFloatFree = true) (hvnull : v ≠ .null) (hwnull : w ≠ .null) :
    v.text? = w.text? ↔ v = w ∨ v.IsPrintOf w ∨ w.IsPrintOf v := by
  cases hvtext : v.isText with
  | true =>
    obtain ⟨s, rfl⟩ := exists_of_isText hvtext
    cases hwtext : w.isText with
    | true =>
      obtain ⟨t, rfl⟩ := exists_of_isText hwtext
      simp [text?, IsPrintOf, isText]
    | false =>
      have hne : string s ≠ w := by
        rintro rfl
        cases hwtext
      rw [text?_string_eq_iff hwnull hwtext]
      simp [hne, IsPrintOf, hvtext]
  | false =>
    cases hwtext : w.isText with
    | true =>
      obtain ⟨t, rfl⟩ := exists_of_isText hwtext
      have hne : v ≠ string t := by
        rintro rfl
        cases hvtext
      rw [eq_comm, text?_string_eq_iff hvnull hvtext]
      simp [hne, IsPrintOf, hwtext]
    | false =>
      have hprints : ¬ (v.IsPrintOf w ∨ w.IsPrintOf v) := by
        rintro (⟨rfl, -⟩ | ⟨rfl, -⟩)
        · cases hvtext
        · cases hwtext
      rw [text?_of_isText_eq_false hvnull hvtext, text?_of_isText_eq_false hwnull hwtext,
        Option.some.injEq, compact_inj hv hw hvfloat hwfloat, or_iff_left hprints]

end Json.Value

theorem isShownAs_eq_true_iff {found : Option Value} {expected : Option String} :
    isShownAs found expected = true ↔
      ∃ t, whenText expected = some t ∧ found.bind Value.text? = some t := by
  unfold isShownAs
  split
  · next e s he hs => simp only [he, hs, Option.some.injEq, beq_iff_eq, exists_eq_left']
  · next hnone =>
    refine iff_of_false Bool.false_ne_true ?_
    rintro ⟨t, he, hs⟩
    exact hnone t t he hs

/-- **What is found is shown as what is authored exactly if the two agree.** -/
theorem isShownAs_text?_iff {v w : Value} (hv : v.Ordered) (hw : w.Ordered)
    (hvfloat : v.isFloatFree = true) (hwfloat : w.isFloatFree = true) :
    isShownAs (some w) v.text? = true ↔ v.Agrees w := by
  rw [isShownAs_eq_true_iff]
  constructor
  · rintro ⟨t, hexpected, hfound⟩
    obtain ⟨ht, htext⟩ := whenText_eq_some_iff.mp hexpected
    have hvnull : v ≠ .null := fun h => by simp [Value.text?_eq_none_iff.mpr h] at ht
    have hwnull : w ≠ .null := fun h => by simp [Value.text?_eq_none_iff.mpr h] at hfound
    have hsame : v.text? = w.text? := ht.trans hfound.symm
    exact ⟨hvnull, hwnull, ⟨t, ht, htext⟩,
      (Value.text?_eq_text?_iff hv hw hvfloat hwfloat hvnull hwnull).mp hsame⟩
  · rintro ⟨hvnull, hwnull, ⟨t, ht, htext⟩, hsame⟩
    have htexts := (Value.text?_eq_text?_iff hv hw hvfloat hwfloat hvnull hwnull).mpr hsame
    exact ⟨t, whenText_eq_some_iff.mpr ⟨ht, htext⟩, htexts.symm.trans ht⟩

/-! ## Conditions about named values -/

/-- What a context has under a key. -/
inductive Holder where
  | metadata
  | state
  | toolArg

namespace Holder
variable {ctx : Context} {key : String} {v w : Value} {custom : List Matcher} {config : Config}

/-- The kind of the conditions that compare what is there. -/
def kind : Holder → String
  | .metadata => "metadata_equals"
  | .state => "state_equals"
  | .toolArg => "tool_arg_equals"

/-- The context has the value under the key. -/
def Has (ctx : Context) (key : String) (w : Value) : Holder → Prop
  | .metadata => ctx.metadataValue key = some w
  | .state => ctx.stateValue key = .found w
  | .toolArg => ctx.toolArg key = some w

/-- The object in which a condition is authored that compares with a value. -/
def authored (holder : Holder) (key : String) (v : Value) : Value :=
  (Value.object [("type", .string holder.kind), ("key", .string key), ("value", v)]).canonical

/-- The condition that is authored. -/
def condition (holder : Holder) (key : String) (v : Value) : Condition :=
  { kind := holder.kind, key := some key, value := v.text? }

/-- A value that is authored is kept as its text. -/
theorem take_authored (v : Value) (s : Condition) :
    take ⟨"value", false, any.nullable.map fun v s => { s with value := v.bind Value.text? }⟩
      (some v) s = .ok { s with value := v.text? } := by
  cases v <;> rfl

/-- What is authored is read as a condition, which keeps the text of the value. -/
theorem decode_authored (holder : Holder) (key : String) (hv : v.Ordered) :
    Condition.decode (holder.authored key v) = .ok (holder.condition key v) := by
  refine decode_eq_ok_iff.mpr (ofValue_canonical_object Condition.independent_slots ?_ ?_ ?_)
  · simp
  · simp [Condition.slots, Slot.optional]
  · have hcanonical : v.canonical = v := hv
    simp only [fillSlots, Condition.slots, Slot.optional, Fields.get?, ↓reduceIte,
      String.reduceEq, Option.map_some, Option.map_none, hcanonical, take_authored, ok_bind]
    rfl

/-- The matcher of the library compares what is found with what is authored. -/
theorem outcome_builtIn (holder : Holder) (config : Config) (hkey : hasText key = true)
    (h : holder.Has ctx key w) (v : Value) :
    ∃ m, Registry.builtIn? holder.kind config = some m ∧
      m.run (holder.condition key v) ctx = .decided (isShownAs (some w) v.text?) := by
  have hwhen : whenText (holder.condition key v).key = some key :=
    whenText_eq_some_iff.mpr ⟨rfl, hkey⟩
  cases holder with
  | metadata =>
    have hfound : ctx.metadataValue key = some w := h
    refine ⟨_, rfl, congrArg Outcome.decided ?_⟩
    simp only [Condition.metadataEquals, hwhen, hfound]
    rfl
  | state =>
    have hfound : ctx.stateValue key = .found w := h
    refine ⟨_, rfl, ?_⟩
    simp only [Condition.stateOutcome, hwhen, hfound]
    rfl
  | toolArg =>
    have hfound : ctx.toolArg key = some w := h
    refine ⟨_, rfl, congrArg Outcome.decided ?_⟩
    simp only [Condition.toolArgEquals, hwhen, hfound]
    rfl

theorem hasText_kind (holder : Holder) : hasText holder.kind = true := by
  cases holder <;> decide +kernel

/-- **Conditions compare by text.**  Suppose that the host has no matchers of its own for these
conditions.  An object in which a value is authored under a key that is not blank is read as a
condition.  Where the context has a value under the key, the condition holds exactly if the two
agree: neither is `null`, the text of the authored one is not blank, and they are the same, or
exactly one of them is a text, and that is what the other is printed as.  Of both values it is
supposed that their objects are maps and that no number in them is a double. -/
theorem holds_iff_agrees (holder : Holder) (hcustom : ∀ m ∈ custom, m.kind ≠ holder.kind)
    (config : Config) (hkey : hasText key = true) (hv : v.Ordered) (hw : w.Ordered)
    (hvfloat : v.isFloatFree = true) (hwfloat : w.isFloatFree = true)
    (h : holder.Has ctx key w) :
    ∃ c, Condition.decode (holder.authored key v) = .ok c ∧
      (((Registry.build custom config).result.evaluate ctx (.condition c)).result = true ↔
        v.Agrees w) := by
  obtain ⟨m, hm, houtcome⟩ := outcome_builtIn holder config hkey h v
  refine ⟨holder.condition key v, decode_authored holder key hv, ?_⟩
  have hnone : Registry.lastCustom? holder.kind custom = none := by
    rw [Registry.lastCustom?, if_pos holder.hasText_kind, List.getLast?_eq_none_iff,
      List.filter_eq_nil_iff]
    exact fun m hm => fun hkind => hcustom m hm (eq_of_beq hkind)
  have hget : (Registry.build custom config).result.get? holder.kind = some m := by
    rw [Registry.get?_build, hnone, Option.none_or, hm]
  have hdecide := Registry.decide_of_registered ctx
    (show hasText (holder.condition key v).kind = true from holder.hasText_kind) hget
  rw [Registry.evaluate, Expression.evaluate, hdecide, houtcome]
  exact isShownAs_text?_iff hv hw hvfloat hwfloat

/-! ### A list and its text -/

/-- The list of the number one and `true`. -/
def pair : Value := .array [.number (.whole ⟨1, by decide, by decide⟩), .bool true]

/-- A state that has the text in which the list is printed. -/
def printed : Context := { state := some (.ofFields [("seen", .string "[1,true]")]) }

/-- The list is authored, and what the state has is its text, so the condition holds. -/
theorem holds_iff_agrees_pair :
    Holder.state.Has printed "seen" (.string "[1,true]") ∧
    ∃ c, Condition.decode (Holder.state.authored "seen" pair) = .ok c ∧
      ((Registry.build [] {}).result.evaluate printed (.condition c)).result = true := by
  have hhas : Holder.state.Has printed "seen" (.string "[1,true]") := by rfl
  have hpair : pair.Ordered := rfl
  have hstring : (Value.string "[1,true]").Ordered := rfl
  obtain ⟨c, hc, hiff⟩ := holds_iff_agrees Holder.state (List.forall_mem_nil _) {}
    (by decide +kernel) hpair hstring rfl rfl hhas
  have htext : pair.text? = some "[1,true]" := by decide +kernel
  have hprint : (Value.string "[1,true]").IsPrintOf pair :=
    ⟨congrArg Value.string (Option.some.inj htext).symm, rfl⟩
  have hagrees : pair.Agrees (.string "[1,true]") :=
    ⟨nofun, nofun, ⟨_, htext, by decide +kernel⟩, .inr (.inr hprint)⟩
  exact ⟨hhas, c, hc, hiff.mpr hagrees⟩

end Holder

end IntentSelect
