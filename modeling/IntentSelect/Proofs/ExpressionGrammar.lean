import IntentSelect.Proofs.AuthoredExpressions
import IntentSelect.Proofs.RecordAcceptance
import Mathlib.Tactic.MkIffOfInductiveProp

/-! # Which documents are expressions

Documents that decode as expressions make up a grammar (`Authored.IsExpression`): `null`, and
records whose fields are in the grammar in turn, or are lists of what is, or conditions.  A value
decodes exactly if it belongs to the grammar (`Expression.decode_isExpression`).

The grammar says of each field what may stand there, without regard to the other fields of a node.
So it does not know of any precedence among them, and a field that will not count for anything
still has to be well formed.
-/
namespace IntentSelect

open Json Json.Reading

namespace Authored
variable {v w : Value} {name : String}

/-! ## Conditions -/

/-- The fields of a condition, in the order in which they stand in an array. -/
def conditionNames : List String :=
  ["type", "key", "value", "values", "pattern", "ignoreCase", "trim"]

/-- What a condition may have under a name.  Of `value` and of names that are not those of its
fields nothing is asked. -/
@[mk_iff] structure IsConditionField (name : String) (w : Value) : Prop where
  type : name = "type" → ∃ t, w = .string t
  text : name = "key" ∨ name = "pattern" → w = .null ∨ ∃ t, w = .string t
  values : name = "values" → w = .null ∨ ∃ items, w = .array items
  flag : name = "ignoreCase" ∨ name = "trim" → w = .null ∨ ∃ b, w = .bool b

theorem isConditionField_of_not_mem (h : name ∉ conditionNames) : IsConditionField name w := by
  simp only [conditionNames, List.mem_cons, not_or] at h
  simp [isConditionField_iff, h]

/-- A well-formed condition. -/
@[mk_iff] structure IsCondition (v : Value) : Prop where
  form : v.IsRecord conditionNames.length
  fields : ∀ name w, v.field? conditionNames name = some w → IsConditionField name w

/-! ## Expressions -/

mutual
/-- A document of the grammar. -/
inductive IsExpression : Value → Prop where
  | null : IsExpression .null
  | record {v : Value} (form : v.IsRecord names.length)
      (fields : ∀ name w, v.field? names name = some w → IsField name w) : IsExpression v

/-- What a node may have under a name. -/
inductive IsField : String → Value → Prop where
  | null {name : String} : IsField name .null
  | list {name : String} {items : List Value} (hname : name = "anyOf" ∨ name = "allOf")
      (members : ∀ w ∈ items, IsExpression w) : IsField name (.array items)
  | not {name : String} {w : Value} (hname : name = "not") (child : IsExpression w) :
      IsField name w
  | condition {name : String} {w : Value} (hname : name = "condition")
      (condition : IsCondition w) : IsField name w
  | other {name : String} {w : Value} (hname : name ∉ names) : IsField name w
end

theorem isField_list_iff (hname : name = "anyOf" ∨ name = "allOf") : IsField name w ↔
    w = .null ∨ ∃ items, w = .array items ∧ ∀ u ∈ items, IsExpression u := by
  constructor
  · intro h
    cases h with
    | null => exact .inl rfl
    | list _ members => exact .inr ⟨_, rfl, members⟩
    | not h => rcases hname with rfl | rfl <;> simp at h
    | condition h => rcases hname with rfl | rfl <;> simp at h
    | other h => rcases hname with rfl | rfl <;> simp [names] at h
  · rintro (rfl | ⟨items, rfl, members⟩)
    · exact .null
    · exact .list hname members

theorem isField_not_iff : IsField "not" w ↔ IsExpression w := by
  constructor
  · intro h
    cases h with
    | null => exact .null
    | list h => simp at h
    | not _ child => exact child
    | condition h => simp at h
    | other h => simp [names] at h
  · exact .not rfl

theorem isField_condition_iff : IsField "condition" w ↔ w = .null ∨ IsCondition w := by
  constructor
  · intro h
    cases h with
    | null => exact .inl rfl
    | list h => simp at h
    | not h => simp at h
    | condition _ condition => exact .inr condition
    | other h => simp [names] at h
  · rintro (rfl | condition)
    · exact .null
    · exact .condition rfl condition

theorem isExpression_iff : IsExpression v ↔
    v = .null ∨ v.IsRecord names.length ∧
      ∀ name w, v.field? names name = some w → IsField name w := by
  constructor
  · intro h
    cases h with
    | null => exact .inl rfl
    | record form fields => exact .inr ⟨form, fields⟩
  · rintro (rfl | ⟨form, fields⟩)
    · exact .null
    · exact .record form fields

end Authored

/-! ## What the readings accept -/

/-- **Conditions that are accepted** are those of the grammar. -/
theorem Condition.accepts_reading_iff {v : Value} (hv : v.Ordered) :
    Condition.reading.Accepts v ↔ Authored.IsCondition v := by
  have hoptional : ∀ slot ∈ slots, slot.required = false := by simp [slots, Slot.optional]
  have hrecord : Condition.reading.Accepts v ↔ v.IsRecord slots.length ∧
      ∀ name w, v.field? (slots.map Slot.name) name = some w →
        Authored.IsConditionField name w := by
    refine accepts_record_iff_fields hoptional (by decide) hv ?_ ?_
    · -- the reading of each slot is put together from ones of which it is known what they accept
      intro slot hslot w _
      simp only [slots, List.mem_cons, List.not_mem_nil, or_false] at hslot
      rcases hslot with rfl | rfl | rfl | rfl | rfl | rfl | rfl <;>
        simp [Slot.optional, accepts_map, accepts_nullable, accepts_text, accepts_flag, accepts_any,
          accepts_list, Authored.isConditionField_iff]
    · intro name hname w
      exact Authored.isConditionField_of_not_mem hname
  rw [hrecord, Authored.isCondition_iff]
  rfl

namespace Expression
variable {v : Value} {child : Reading Expression} {levels : Nat}

/-- One level: if the parts that are accepted are those of the grammar, so is the whole. -/
theorem accepts_readingOver_iff (hv : v.Ordered)
    (hchild : ∀ w, w.Ordered → w.depth < v.depth →
      (child.Accepts w ↔ Authored.IsExpression w)) :
    (readingOver child).Accepts v ↔ Authored.IsExpression v := by
  have hoptional : ∀ slot ∈ slots child, slot.required = false := by simp [slots, Slot.optional]
  have hnames : ((slots child).map Slot.name).Nodup := by
    rw [map_name_slots]
    decide
  -- a list in a node lies less deep than the node, and what is in the list less deep again
  have hlist : ∀ name, name = "anyOf" ∨ name = "allOf" → ∀ w, w.Ordered → w.depth < v.depth →
      ((nullable (.list child)).Accepts w ↔ Authored.IsField name w) := by
    intro name hname w hw hdepth
    rw [accepts_nullable, accepts_list, Authored.isField_list_iff hname]
    refine or_congr_right (exists_congr fun items => and_congr_right ?_)
    rintro rfl
    refine forall₂_congr fun u hu => hchild u (Value.ordered_array_iff.mp hw u hu) ?_
    exact Nat.lt_trans (Nat.lt_succ_of_le (depth_le_itemsDepth hu)) hdepth
  have hslots : ∀ slot ∈ slots child, ∀ w,
      v.field? ((slots child).map Slot.name) slot.name = some w →
        (slot.reading.Accepts w ↔ Authored.IsField slot.name w) := by
    intro slot hslot w hw
    have hordered : w.Ordered := hv.field? hw
    have hdepth : w.depth < v.depth := Value.depth_lt_of_field? hw
    simp only [slots, List.mem_cons, List.not_mem_nil, or_false] at hslot
    rcases hslot with rfl | rfl | rfl | rfl
    · exact accepts_map.trans (hlist "anyOf" (.inl rfl) w hordered hdepth)
    · exact accepts_map.trans (hlist "allOf" (.inr rfl) w hordered hdepth)
    · refine accepts_map.trans (accepts_nullable.trans ?_)
      rw [hchild w hordered hdepth]
      refine Iff.trans ?_ Authored.isField_not_iff.symm
      exact or_iff_right_of_imp fun hnull => hnull ▸ .null
    · refine accepts_map.trans (accepts_nullable.trans ?_)
      rw [Condition.accepts_reading_iff hordered]
      exact Authored.isField_condition_iff.symm
  refine accepts_map.trans (accepts_nullable.trans ?_)
  rw [accepts_record_iff_fields hoptional hnames hv hslots fun name hname w => .other hname]
  exact Authored.isExpression_iff.symm

/-- Enough levels accept what belongs to the grammar. -/
theorem accepts_reading_iff (hv : v.Ordered) (hlevels : v.depth < levels) :
    (reading levels).Accepts v ↔ Authored.IsExpression v := by
  induction levels generalizing v with
  | zero => exact absurd hlevels (Nat.not_lt_zero _)
  | succ levels ih =>
    refine accepts_readingOver_iff hv fun w hw hdepth => ih hw ?_
    omega

/-- **What decodes as an expression** is what belongs to the grammar.  A field of a node that is
not as it has to be makes the decoding fail, whatever the other fields are. -/
theorem decode_isExpression (hv : v.Ordered) :
    ((∃ e, decode v = .ok e) ↔ Authored.IsExpression v) ∧
    ∀ name w, v.field? Authored.names name = some w → ¬ Authored.IsField name w →
      ∃ refusal, decode v = .error refusal := by
  have hdecode : (∃ e, decode v = .ok e) ↔ Authored.IsExpression v :=
    (exists_congr fun e => decode_eq_ok_iff).trans
      (accepts_reading_iff hv (Nat.lt_succ_self v.depth))
  refine ⟨hdecode, fun name w hw hmalformed => ?_⟩
  have hnot : ¬ Authored.IsExpression v := by
    intro h
    rcases Authored.isExpression_iff.mp h with rfl | ⟨-, fields⟩
    · cases hw
    · exact hmalformed (fields name w hw)
  cases hresult : decode v with
  | ok e => exact absurd (hdecode.mp ⟨e, hresult⟩) hnot
  | error refusal => exact ⟨refusal, rfl⟩

namespace DroppedField

/-- An array whose third element, the negation, is an object; the lists before it hold nodes in
both forms, one of them with a field that no node has. -/
def document : Value := .array [
  .array [.null, .object [("comment", .number (.float 0)), ("not", .array [])]],
  .null,
  .object [("condition", .array [.string "metadata_equals", .string "lang", .bool true])]]

/-- The negation would count before the condition, whose type is no text. -/
def malformed : Value := .object [("condition", .object [("type", .null)]), ("not", .object [])]

end DroppedField

open DroppedField in
/-- What is not as it has to be makes a document be refused even where it would be dropped. -/
theorem decode_isExpression_dropped :
    document.Ordered ∧ Authored.IsExpression document ∧
    malformed.Ordered ∧ ¬ Authored.IsExpression malformed ∧
    (∃ refusal, decode malformed = .error refusal) ∧
    decode (.object [("not", .object [])]) = .ok (.not .empty) := by
  have hdocument : document.Ordered := by rfl
  have hmalformed : malformed.Ordered := by rfl
  have hcondition : ¬ Authored.IsField "condition" (.object [("type", .null)]) := by
    rw [Authored.isField_condition_iff]
    rintro (h | h)
    · cases h
    · obtain ⟨t, ht⟩ := (h.fields "type" .null rfl).type rfl
      cases ht
  obtain ⟨refusal, hrefusal⟩ :=
    (decode_isExpression hmalformed).2 "condition" (.object [("type", .null)]) rfl hcondition
  refine ⟨hdocument, (decode_isExpression hdocument).1.mp ⟨_, rfl⟩, hmalformed, ?_,
    ⟨refusal, hrefusal⟩, rfl⟩
  intro h
  obtain ⟨e, he⟩ := (decode_isExpression hmalformed).1.mpr h
  rw [hrefusal] at he
  cases he

end Expression

end IntentSelect
