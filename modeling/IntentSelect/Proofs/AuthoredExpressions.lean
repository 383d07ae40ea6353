import IntentSelect.Proofs.ExpressionTree
import IntentSelect.Proofs.RecordParts

/-! # Expressions as they are authored

An authored node may have any of its four fields filled in.  Which of them counts is settled
when it is decoded, once and for all, by the constructor of the expression.  Here it is
settled when it is evaluated, at each node that the evaluation comes to, from the document
itself (`Authored.evaluate`): a negation counts before a conjunction, a conjunction before
a disjunction, a disjunction before a condition, and nothing is false.

The main statement is that the two agree (`evaluate_decode`), in the answer and in
everything done on the way to it.  It needs no knowledge of what a node is made of: the fields
of a node and the parts that are read from it correspond one by one (`Authored.Matches`).
-/
namespace IntentSelect

open Json Json.Reading

/-! ## Evaluating a list -/

/-- Goes through evaluations up to the first that does not give `go`.  If there is none, the
answer is `go`. -/
def Traced.whileGiving (go : Bool) : List (Traced Bool) → Traced Bool
  | [] => return go
  | t :: ts => do
    let b ← t
    if b = go then whileGiving go ts else return !go

theorem Expression.evaluateWhile_eq (decide : Condition → Traced Bool) (go : Bool)
    (es : List Expression) :
    evaluateWhile decide go es = Traced.whileGiving go (es.map fun e => e.evaluate decide) := by
  induction es with
  | nil => rfl
  | cons e es ih => rw [evaluateWhile, ih]; rfl

namespace Authored
variable {v w : Value} {name : String}

/-! ## What is authored -/

/-- The fields of a node, in the order in which they stand in an array. -/
def names : List String := ["anyOf", "allOf", "not", "condition"]

/-- What a node has under a name; `null` is nothing. -/
def part? (name : String) (v : Value) : Option Value :=
  match v.field? names name with
  | some .null => none
  | w? => w?

/-- The list that a node has under a name, empty if there is none. -/
def parts (name : String) (v : Value) : List Value :=
  match part? name v with
  | some (.array items) => items
  | _ => []

theorem part?_eq_some_iff : part? name v = some w ↔ v.field? names name = some w ∧ w ≠ .null := by
  unfold part?
  split
  · next h =>
    simp only [h, Option.some.injEq, reduceCtorEq, false_iff, not_and]
    rintro rfl h'
    exact h' rfl
  · next h => exact ⟨fun hw => ⟨hw, fun hnull => h (hnull ▸ hw)⟩, And.left⟩

theorem sizeOf_lt_of_field? {names : List String} (h : v.field? names name = some w) :
    sizeOf w < sizeOf v := by
  rcases Value.part_of_field? h with ⟨items, rfl, hmem⟩ | ⟨entries, rfl, hmem⟩
  · have hlt := List.sizeOf_lt_of_mem hmem
    simp only [Value.array.sizeOf_spec]
    omega
  · have hlt := List.sizeOf_lt_of_mem hmem
    simp only [Value.object.sizeOf_spec, Prod.mk.sizeOf_spec] at hlt ⊢
    omega

theorem sizeOf_lt_of_part? (h : part? name v = some w) : sizeOf w < sizeOf v :=
  sizeOf_lt_of_field? (part?_eq_some_iff.mp h).1

theorem sizeOf_lt_of_mem_parts (h : w ∈ parts name v) : sizeOf w < sizeOf v := by
  unfold parts at h
  split at h
  · next items hitems =>
    have hlt := List.sizeOf_lt_of_mem h
    have hlt' := sizeOf_lt_of_part? hitems
    rw [Value.array.sizeOf_spec] at hlt'
    omega
  · cases h

/-! ## Evaluating what is authored -/

/-- Evaluates the first of these that a node has: a negation, a list of expressions that all have
to hold, a list of which one has to hold, a condition. -/
def evaluate (decide : Condition → Traced Bool) (v : Value) : Traced Bool :=
  match _h : part? "not" v with
  | some child => do
    let b ← evaluate decide child
    return !b
  | none =>
    if parts "allOf" v ≠ [] then
      .whileGiving true ((parts "allOf" v).attach.map fun w => evaluate decide w.1)
    else if parts "anyOf" v ≠ [] then
      .whileGiving false ((parts "anyOf" v).attach.map fun w => evaluate decide w.1)
    else
      match part? "condition" v with
      | some w =>
        match Condition.reading.ofValue w with
        | .ok c => decide c
        | .error _ => return false
      | none => return false
termination_by sizeOf v
decreasing_by
  · exact sizeOf_lt_of_part? ‹_›
  · exact sizeOf_lt_of_mem_parts w.2
  · exact sizeOf_lt_of_mem_parts w.2

section Evaluate
variable {decide : Condition → Traced Bool}

theorem evaluate_of_not (h : part? "not" v = some w) :
    evaluate decide v = (do let b ← evaluate decide w; return !b) := by
  rw [evaluate]
  split
  · next h' =>
    rw [h, Option.some.injEq] at h'
    rw [h']
  · next h' => rw [h] at h'; cases h'

/-- Without a negation the lists decide, or else the condition. -/
theorem evaluate_of_no_not (h : part? "not" v = none) : evaluate decide v =
    if parts "allOf" v ≠ [] then .whileGiving true ((parts "allOf" v).map (evaluate decide))
    else if parts "anyOf" v ≠ [] then .whileGiving false ((parts "anyOf" v).map (evaluate decide))
    else
      match part? "condition" v with
      | some w =>
        match Condition.reading.ofValue w with
        | .ok c => decide c
        | .error _ => pure false
      | none => pure false := by
  rw [evaluate]
  split
  · next h' => rw [h] at h'; cases h'
  · rw [List.attach_map_val, List.attach_map_val]

end Evaluate

/-! ## What is read from a node -/

/-- The parts read from a node correspond to what is authored, the parts of expressions being read
by `child`. -/
structure Matches (child : Reading Expression) (v : Value) (p : Expression.Parts) : Prop where
  not : Option.Rel (fun w e => child.ofValue w = .ok e) (part? "not" v) p.not
  allOf : List.Forall₂ (fun w e => child.ofValue w = .ok e) (parts "allOf" v) p.allOf
  anyOf : List.Forall₂ (fun w e => child.ofValue w = .ok e) (parts "anyOf" v) p.anyOf
  condition : Option.Rel (fun w c => Condition.reading.ofValue w = .ok c) (part? "condition" v)
    p.condition

end Authored

namespace Expression
variable {child : Reading Expression} {v : Value} {p : Parts} {e : Expression}
  {decide : Condition → Traced Bool}

/-! ## The slots of an expression -/

theorem map_name_slots (child : Reading Expression) :
    (slots child).map Slot.name = Authored.names :=
  rfl

section Owns
attribute [local simp] slots Slot.optional Slot.keeps_of_set Slot.fills_of_set

theorem owns_anyOf (child : Reading Expression) :
    Owns (slots child) "anyOf" ((nullable (.list child)).map (·.getD [])) Parts.anyOf where
  mem := by simp
  fills := by simp
  keeps := by simp

theorem owns_allOf (child : Reading Expression) :
    Owns (slots child) "allOf" ((nullable (.list child)).map (·.getD [])) Parts.allOf where
  mem := by simp
  fills := by simp
  keeps := by simp

theorem owns_not (child : Reading Expression) :
    Owns (slots child) "not" ((nullable child).map id) Parts.not where
  mem := by simp
  fills := by simp
  keeps := by simp

theorem owns_condition (child : Reading Expression) :
    Owns (slots child) "condition" ((nullable Condition.reading).map id) Parts.condition where
  mem := by simp
  fills := by simp
  keeps := by simp

end Owns

/-! ## What is read from a node -/

/-- A part that may be left out or be `null` is read from what is authored. -/
theorem rel_of_read {α : Type} {r : Reading α} {name : String} {x : Option α}
    (h : Read ((nullable r).map id) (v.field? Authored.names name) none x) :
    Option.Rel (fun w y => r.ofValue w = .ok y) (Authored.part? name v) x := by
  cases hv : v.field? Authored.names name with
  | none =>
    rw [hv, Read] at h
    have hnone : Authored.part? name v = none := by simp [Authored.part?, hv]
    rw [hnone, h]
    exact .none
  | some w =>
    rw [hv, Read] at h
    obtain ⟨y, hy, rfl⟩ := map_eq_ok_iff.mp h
    rcases ofValue_nullable_eq_ok_iff.mp hy with ⟨rfl, rfl⟩ | ⟨hw, z, hz, rfl⟩
    · have hnone : Authored.part? name v = none := by simp [Authored.part?, hv]
      rw [hnone]
      exact .none
    · rw [Authored.part?_eq_some_iff.mpr ⟨hv, hw⟩]
      exact .some hz

theorem forall₂_of_read {α : Type} {r : Reading α} {name : String} {xs : List α}
    (h : Read ((nullable (.list r)).map (·.getD [])) (v.field? Authored.names name) [] xs) :
    List.Forall₂ (fun w y => r.ofValue w = .ok y) (Authored.parts name v) xs := by
  have hread : ∃ x, Read ((nullable (.list r)).map id) (v.field? Authored.names name) none x ∧
      xs = x.getD [] := by
    cases hv : v.field? Authored.names name with
    | none => exact ⟨none, rfl, by rw [hv] at h; exact h⟩
    | some w =>
      rw [hv, Read] at h
      obtain ⟨x, hx, rfl⟩ := map_eq_ok_iff.mp h
      exact ⟨x, map_eq_ok_iff.mpr ⟨x, hx, rfl⟩, rfl⟩
  obtain ⟨x, hx, rfl⟩ := hread
  have hrel := rel_of_read hx
  unfold Authored.parts
  cases hpart : Authored.part? name v with
  | none =>
    rw [hpart] at hrel
    cases hrel
    exact .nil
  | some w =>
    rw [hpart] at hrel
    cases hrel with
    | some hlist =>
      obtain ⟨items, rfl, hitems⟩ := ofValue_list_eq_ok_iff.mp hlist
      exact hitems

theorem matches_of_record {record : String}
    (h : (Reading.record record (slots child) {}).ofValue v = .ok p) :
    Authored.Matches child v p := by
  have hnodup : ((slots child).map Slot.name).Nodup := by
    rw [map_name_slots]
    decide
  exact {
    not := rel_of_read (part_of_record (owns_not child) hnodup h)
    allOf := forall₂_of_read (part_of_record (owns_allOf child) hnodup h)
    anyOf := forall₂_of_read (part_of_record (owns_anyOf child) hnodup h)
    condition := rel_of_read (part_of_record (owns_condition child) hnodup h) }

/-- An expression is read from `null` or from the parts of a record. -/
theorem ofValue_readingOver (h : (readingOver child).ofValue v = .ok e) :
    v = .null ∧ e = .empty ∨ ∃ p, Authored.Matches child v p ∧ e = ofParts p := by
  obtain ⟨p?, hp?, rfl⟩ := map_eq_ok_iff.mp h
  rcases ofValue_nullable_eq_ok_iff.mp hp? with ⟨rfl, rfl⟩ | ⟨-, p, hp, rfl⟩
  · exact .inl ⟨rfl, rfl⟩
  · exact .inr ⟨p, matches_of_record hp, rfl⟩

/-! ## One evaluation and the other -/

theorem map_evaluate_of_forall₂ {ws : List Value} {es : List Expression}
    (h : List.Forall₂ (fun w e => child.ofValue w = .ok e) ws es)
    (ih : ∀ w e, child.ofValue w = .ok e → e.evaluate decide = Authored.evaluate decide w) :
    es.map (fun e => e.evaluate decide) = ws.map (Authored.evaluate decide) := by
  induction h with
  | nil => rfl
  | cons hwe _ ihs => rw [List.map_cons, List.map_cons, ih _ _ hwe, ihs]

/-- One level: if the parts evaluate alike, so does the whole. -/
theorem evaluate_ofParts (h : Authored.Matches child v p)
    (ih : ∀ w e, child.ofValue w = .ok e → e.evaluate decide = Authored.evaluate decide w) :
    (ofParts p).evaluate decide = Authored.evaluate decide v := by
  obtain ⟨hnot, hallOf, hanyOf, hcondition⟩ := h
  obtain ⟨anyOf, allOf, not, condition⟩ := p
  have hallOf' := map_evaluate_of_forall₂ hallOf ih
  have hanyOf' := map_evaluate_of_forall₂ hanyOf ih
  simp only at hnot hallOf hanyOf hcondition hallOf' hanyOf'
  cases hw : Authored.part? "not" v with
  | some w =>
    rw [hw] at hnot
    cases hnot with
    | some hchild =>
      rw [Authored.evaluate_of_not hw, ← ih _ _ hchild, ofParts, evaluate]
  | none =>
    rw [hw] at hnot
    cases hnot
    rw [Authored.evaluate_of_no_not hw, ← hallOf', ← hanyOf']
    cases allOf with
    | cons e es =>
      have hne : Authored.parts "allOf" v ≠ [] := by
        rintro hnil
        rw [hnil] at hallOf
        cases hallOf
      rw [if_pos hne, ← evaluateWhile_eq]
      exact evaluate_allOf (e :: es)
    | nil =>
      rw [List.forall₂_nil_right_iff.mp hallOf]
      cases anyOf with
      | cons e es =>
        have hne : Authored.parts "anyOf" v ≠ [] := by
          rintro hnil
          rw [hnil] at hanyOf
          cases hanyOf
        rw [if_neg (not_not.mpr rfl), if_pos hne, ← evaluateWhile_eq]
        exact evaluate_anyOf (e :: es)
      | nil =>
        rw [List.forall₂_nil_right_iff.mp hanyOf, if_neg (not_not.mpr rfl),
          if_neg (not_not.mpr rfl)]
        cases hc : Authored.part? "condition" v with
        | none =>
          rw [hc] at hcondition
          cases hcondition
          rfl
        | some w =>
          rw [hc] at hcondition
          cases hcondition with
          | some hread =>
            simp only [hread]
            rfl

theorem evaluate_of_ofValue {levels : Nat} (h : (reading levels).ofValue v = .ok e) :
    e.evaluate decide = Authored.evaluate decide v := by
  induction levels generalizing v e with
  | zero => cases h
  | succ levels ih =>
    rcases ofValue_readingOver h with ⟨rfl, rfl⟩ | ⟨p, hp, rfl⟩
    · rw [Authored.evaluate_of_no_not rfl]
      rfl
    · exact evaluate_ofParts hp fun w e hwe => ih hwe

end Expression

namespace Registry

/-- **Authored and decoded.**  If a document decodes as an expression, the expression evaluates to
what the document says when its nodes are looked at one by one, with the same calls of matchers
and the same events on the way. -/
theorem evaluate_decode {v : Value} {e : Expression} (h : Expression.decode v = .ok e)
    (r : Registry) (ctx : Context) :
    r.evaluate ctx e = Authored.evaluate (r.decide ctx) v :=
  Expression.evaluate_of_ofValue (decode_eq_ok_iff.mp h)

namespace CrowdedNode

/-- An array with all four fields: the negation, which stands third, counts.  Within it the list
of a crowded object counts, and not its condition. -/
def document : Value := .array [
  .array [.object [("condition", .object [("type", .string "metadata_exists")])]],
  .array [],
  .object [
    ("allOf", .array []),
    ("anyOf", .array [.null, .array [.null, .null, .null, .array [.string "message_prefix"]]]),
    ("condition", .object [("type", .string "nonesuch")]),
    ("not", .null)],
  .object []]

def expression : Expression :=
  .not (.anyOf [.empty, .condition { kind := "message_prefix" }])

end CrowdedNode

open CrowdedNode in
/-- Only the negated list is looked at. -/
theorem evaluate_decode_crowded :
    Expression.decode document = .ok expression ∧
    ((Registry.build [] {}).result.evaluate {} expression).calls =
      [("message_prefix", { kind := "message_prefix" })] ∧
    (Registry.build [] {}).result.evaluate {} expression =
      Authored.evaluate ((Registry.build [] {}).result.decide {}) document := by
  have hdecode : Expression.decode document = .ok expression := by rfl
  exact ⟨hdecode, rfl, evaluate_decode hdecode (Registry.build [] {}).result {}⟩

end Registry

end IntentSelect
