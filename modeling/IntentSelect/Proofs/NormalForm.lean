import IntentSelect.Proofs.AuthoredExpressions
import IntentSelect.Proofs.ReadingResults

/-! # Expressions without empty lists

A conjunction or a disjunction of no parts is written like the empty expression, so it cannot be
told from it afterwards.  `normalize` puts the empty expression in its place wherever it stands
and leaves everything else where it is (`at?_normalize`).  Nothing is lost by that, since an
empty list is false like the empty expression, and no condition is looked at for either
(`evaluate_normalize`).

Only empty lists are changed (`NoEmptyList.normalize_eq`), and no expression that has been
decoded has any, whether it comes from a value or from a text (`ensures_reading`).
-/
namespace IntentSelect.Expression

open Json Json.Reading

variable {e x : Expression} {es : List Expression}

/-! ## Putting the empty expression in place of empty lists -/

mutual
/-- The expression with the empty expression in place of every empty list. -/
def normalize (e : Expression) : Expression :=
  match e with
  | .not child => .not child.normalize
  | .allOf [] => .empty
  | .allOf (e :: es) => .allOf (e.normalize :: normalizeAll es)
  | .anyOf [] => .empty
  | .anyOf (e :: es) => .anyOf (e.normalize :: normalizeAll es)
  | .condition c => .condition c
  | .empty => .empty
termination_by structural e

def normalizeAll (es : List Expression) : List Expression :=
  match es with
  | [] => []
  | e :: es => e.normalize :: normalizeAll es
termination_by structural es
end

theorem normalizeAll_eq (es : List Expression) : normalizeAll es = es.map normalize := by
  induction es with
  | nil => rfl
  | cons e es ih => rw [normalizeAll, ih, List.map_cons]

theorem normalize_allOf (h : es ≠ []) : (allOf es).normalize = .allOf (es.map normalize) := by
  cases es with
  | nil => exact absurd rfl h
  | cons e es => rw [normalize, normalizeAll_eq, List.map_cons]

theorem normalize_anyOf (h : es ≠ []) : (anyOf es).normalize = .anyOf (es.map normalize) := by
  cases es with
  | nil => exact absurd rfl h
  | cons e es => rw [normalize, normalizeAll_eq, List.map_cons]

theorem children_normalize (e : Expression) : e.normalize.children = e.children.map normalize := by
  cases e with
  | not child => rfl
  | allOf es =>
    cases es with
    | nil => rfl
    | cons e es => rw [normalize_allOf (List.cons_ne_nil e es)]; rfl
  | anyOf es =>
    cases es with
    | nil => rfl
    | cons e es => rw [normalize_anyOf (List.cons_ne_nil e es)]; rfl
  | condition c => rfl
  | empty => rfl

/-- At every place stands what has stood there, normalized. -/
theorem at?_normalize (e : Expression) (place : List Nat) :
    e.normalize.at? place = (e.at? place).map normalize := by
  induction place generalizing e with
  | nil => rfl
  | cons i place ih =>
    rw [at?, at?, children_normalize, List.getElem?_map]
    cases e.children[i]? with
    | none => rfl
    | some x => exact ih x

/-! ## Evaluation -/

section Evaluate
variable {decide : Condition → Traced Bool}

theorem evaluateWhile_map_normalize {go : Bool}
    (h : ∀ e ∈ es, e.normalize.evaluate decide = e.evaluate decide) :
    evaluateWhile decide go (es.map normalize) = evaluateWhile decide go es := by
  rw [evaluateWhile_eq, evaluateWhile_eq, List.map_map]
  exact congrArg (Traced.whileGiving go) (List.map_congr_left h)

/-- **An expression and its normal form evaluate alike**, with the same conditions decided on the
way, whatever decides them. -/
theorem evaluate_normalize (e : Expression) : e.normalize.evaluate decide = e.evaluate decide := by
  induction e with
  | not child ih => rw [normalize, evaluate, evaluate, ih]
  | allOf es ih =>
    cases es with
    | nil => rfl
    | cons e es =>
      rw [normalize_allOf (List.cons_ne_nil e es), evaluate_allOf, evaluate_allOf,
        evaluateWhile_map_normalize ih]
      rfl
  | anyOf es ih =>
    cases es with
    | nil => rfl
    | cons e es =>
      rw [normalize_anyOf (List.cons_ne_nil e es), evaluate_anyOf, evaluate_anyOf,
        evaluateWhile_map_normalize ih]
      rfl
  | condition c => rfl
  | empty => rfl

end Evaluate

/-! ## Expressions that are normal already -/

/-- Nowhere stands a list of no parts. -/
def NoEmptyList (e : Expression) : Prop :=
  ∀ place, e.at? place ≠ some (.allOf []) ∧ e.at? place ≠ some (.anyOf [])

theorem noEmptyList_iff :
    e.NoEmptyList ↔ e ≠ .allOf [] ∧ e ≠ .anyOf [] ∧ ∀ x ∈ e.children, x.NoEmptyList := by
  constructor
  · intro h
    refine ⟨fun heq => (h []).1 (congrArg some heq), fun heq => (h []).2 (congrArg some heq), ?_⟩
    intro x hx place
    obtain ⟨i, hi⟩ := List.mem_iff_getElem?.mp hx
    have hplace : e.at? (i :: place) = x.at? place := by rw [at?, hi, Option.bind_some]
    exact hplace ▸ h (i :: place)
  · rintro ⟨hallOf, hanyOf, hchildren⟩ place
    cases place with
    | nil => exact ⟨fun h => hallOf (Option.some.inj h), fun h => hanyOf (Option.some.inj h)⟩
    | cons i place =>
      rw [at?]
      cases hi : e.children[i]? with
      | none => exact ⟨nofun, nofun⟩
      | some x => exact hchildren x (List.mem_of_getElem? hi) place

theorem map_normalize_eq_self (h : ∀ e ∈ es, e.normalize = e) : es.map normalize = es := by
  rw [List.map_congr_left h, List.map_id']

/-- Nothing but empty lists is changed. -/
theorem NoEmptyList.normalize_eq (h : e.NoEmptyList) : e.normalize = e := by
  induction e with
  | not child ih =>
    obtain ⟨-, -, hchildren⟩ := noEmptyList_iff.mp h
    rw [normalize, ih (hchildren child (List.mem_singleton_self child))]
  | allOf es ih =>
    obtain ⟨hne, -, hchildren⟩ := noEmptyList_iff.mp h
    rw [normalize_allOf fun hnil => hne (congrArg allOf hnil),
      map_normalize_eq_self fun e he => ih e he (hchildren e he)]
  | anyOf es ih =>
    obtain ⟨-, hne, hchildren⟩ := noEmptyList_iff.mp h
    rw [normalize_anyOf fun hnil => hne (congrArg anyOf hnil),
      map_normalize_eq_self fun e he => ih e he (hchildren e he)]
  | condition c => rfl
  | empty => rfl

/-- Nowhere in a normal form stands an empty list. -/
theorem noEmptyList_normalize (e : Expression) : e.normalize.NoEmptyList := by
  have hne (e : Expression) : e.normalize ≠ .allOf [] ∧ e.normalize ≠ .anyOf [] := by
    cases e with
    | not child => exact ⟨nofun, nofun⟩
    | allOf es => cases es <;> exact ⟨nofun, nofun⟩
    | anyOf es => cases es <;> exact ⟨nofun, nofun⟩
    | condition c => exact ⟨nofun, nofun⟩
    | empty => exact ⟨nofun, nofun⟩
  intro place
  rw [at?_normalize]
  cases e.at? place with
  | none => exact ⟨nofun, nofun⟩
  | some x => exact ⟨fun h => (hne x).1 (Option.some.inj h), fun h => (hne x).2 (Option.some.inj h)⟩

/-! ## What has been decoded -/

/-- In none of the parts stands a list of no parts. -/
structure Parts.NoEmptyList (p : Parts) : Prop where
  anyOf : ∀ e ∈ p.anyOf, e.NoEmptyList
  allOf : ∀ e ∈ p.allOf, e.NoEmptyList
  not : ∀ e, p.not = some e → e.NoEmptyList

/-- Of the lists that are read only those count that are not empty. -/
theorem Parts.NoEmptyList.ofParts {p : Parts} (h : p.NoEmptyList) :
    (Expression.ofParts p).NoEmptyList := by
  obtain ⟨anyOf, allOf, not, condition⟩ := p
  refine noEmptyList_iff.mpr ?_
  cases not with
  | some child => exact ⟨nofun, nofun, List.forall_mem_singleton.mpr (h.not child rfl)⟩
  | none =>
    cases allOf with
    | cons e es => exact ⟨nofun, nofun, h.allOf⟩
    | nil =>
      cases anyOf with
      | cons e es => exact ⟨nofun, nofun, h.anyOf⟩
      | nil => cases condition <;> exact ⟨nofun, nofun, nofun⟩

theorem forall_mem_getD {es? : Option (List Expression)}
    (h : ∀ es, es? = some es → ∀ e ∈ es, e.NoEmptyList) : ∀ e ∈ es?.getD [], e.NoEmptyList := by
  cases es? with
  | none => exact nofun
  | some es => exact h es rfl

theorem kept_slots {child : Reading Expression} (h : Ensures (fun _ => True) child NoEmptyList) :
    Ensures.Kept (fun _ => True) (slots child) Parts.NoEmptyList := by
  have hlist := (h.list Value.hereditary_true).nullable
  refine List.forall_mem_cons.mpr ⟨?anyOf, List.forall_mem_cons.mpr ⟨?allOf,
    List.forall_mem_cons.mpr ⟨?not, List.forall_mem_singleton.mpr ?condition⟩⟩⟩
  case anyOf => exact hlist.map fun es hes p hp => ⟨forall_mem_getD hes, hp.allOf, hp.not⟩
  case allOf => exact hlist.map fun es hes p hp => ⟨hp.anyOf, forall_mem_getD hes, hp.not⟩
  case not => exact h.nullable.map fun e he p hp => ⟨hp.anyOf, hp.allOf, he⟩
  case condition => exact Ensures.keeps fun c p hp => ⟨hp.anyOf, hp.allOf, hp.not⟩

/-- **No expression that has been read has an empty list in it.** -/
theorem ensures_reading (levels : Nat) :
    Ensures (fun _ => True) (reading levels) NoEmptyList := by
  induction levels with
  | zero => exact ⟨nofun, nofun⟩
  | succ levels ih =>
    have hparts : Ensures (fun _ => True)
        (Reading.record "RawMatchExpression" (slots (reading levels)) {}) Parts.NoEmptyList :=
      Ensures.record Value.hereditary_true (kept_slots ih) ⟨nofun, nofun, nofun⟩
    refine hparts.nullable.map fun p? hp? => ?_
    cases p? with
    | none => exact noEmptyList_iff.mpr ⟨nofun, nofun, nofun⟩
    | some p => exact (hp? p rfl).ofParts

end IntentSelect.Expression
