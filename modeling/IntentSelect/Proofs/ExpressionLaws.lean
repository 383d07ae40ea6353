import IntentSelect.Proofs.AuthoredExpressions
import Mathlib.Logic.Relation

/-! # Laws of expressions

Two expressions that are evaluated alike may stand for each other anywhere: whatever is around
them asks only what they evaluate to, and goes on in the same way (`evaluate_replaceAt`).  The laws
of Boolean algebra give such pairs (`Law`), even if it counts which conditions are decided and in
which order.  They need some care, since a list without parts is false whether it is a conjunction
or a disjunction: a negation may be moved into a list, and the parts of an inner list to the outer
one, only if there are any.

Conjunctions and disjunctions are one loop with two signs, which ends at the first evaluation that
does not give `go`.  A negated loop is the loop over the negated parts with the other sign
(`not_whileGiving`), and a loop within a loop of its own sign may as well go on in the outer one
(`whileGiving_nested`).  All laws about lists are one of these two facts for one of the signs.
-/
namespace IntentSelect

/-! ## Loops -/

namespace Traced
variable {go : Bool} {ts : List (Traced Bool)}

/-- A loop over two lists goes on in the second one if the first does not end it. -/
theorem whileGiving_append (go : Bool) (ts us : List (Traced Bool)) :
    whileGiving go (ts ++ us) =
      (do let b ← whileGiving go ts
          if b = go then whileGiving go us else return !go) := by
  induction ts with
  | nil => rw [List.nil_append, whileGiving, pure_bind, if_pos rfl]
  | cons t ts ih =>
    rw [List.cons_append, whileGiving, whileGiving, bind_assoc]
    refine bind_congr fun b => ?_
    by_cases hb : b = go
    · rw [if_pos hb, if_pos hb, ih]
    · -- the first list ends the loop, and its answer is not the one to go on with
      have hother : ¬ (!go) = go := by cases go <;> decide
      rw [if_neg hb, if_neg hb, pure_bind, if_neg hother]

theorem whileGiving_singleton (go : Bool) (t : Traced Bool) : whileGiving go [t] = t := by
  have hanswer : ∀ b : Bool,
      (if b = go then whileGiving go [] else return !go) = (pure b : Traced Bool) := by
    intro b
    cases b <;> cases go <;> rfl
  rw [whileGiving]
  simp only [hanswer, bind_pure]

/-- A loop within a loop of the same sign goes on in the outer one. -/
theorem whileGiving_nested (go : Bool) (before ts after : List (Traced Bool)) :
    whileGiving go (before ++ [whileGiving go ts] ++ after) =
      whileGiving go (before ++ ts ++ after) := by
  simp only [whileGiving_append, whileGiving_singleton]

/-- A negated loop is a loop over the negated parts. -/
theorem not_whileGiving (go : Bool) (ts : List (Traced Bool)) :
    (! ·) <$> whileGiving go ts = whileGiving (!go) (ts.map ((! ·) <$> ·)) := by
  induction ts with
  | nil => rfl
  | cons t ts ih =>
    rw [List.map_cons, whileGiving, whileGiving, map_bind, bind_map_left]
    refine bind_congr fun b => ?_
    by_cases hb : b = go
    · rw [if_pos hb, if_pos (congrArg (! ·) hb), ih]
    · rw [if_neg hb, if_neg fun h => hb (Bool.not_inj h), map_pure]

/-- The evaluation of a list: a loop, but without any parts the answer is no. -/
def group (go : Bool) (ts : List (Traced Bool)) : Traced Bool :=
  if ts.isEmpty then return false else whileGiving go ts

theorem group_of_ne_nil (h : ts ≠ []) : group go ts = whileGiving go ts := by
  rw [group, if_neg (by simpa using h)]

theorem group_singleton (go : Bool) (t : Traced Bool) : group go [t] = t :=
  whileGiving_singleton go t

/-- A list with parts may be merged into a list of the same sign around it. -/
theorem group_nested (h : ts ≠ []) (before after : List (Traced Bool)) :
    group go (before ++ [group go ts] ++ after) = group go (before ++ ts ++ after) := by
  have hinner : before ++ [group go ts] ++ after ≠ [] := by simp
  have hmerged : before ++ ts ++ after ≠ [] := by simp [h]
  rw [group_of_ne_nil hinner, group_of_ne_nil hmerged, group_of_ne_nil h, whileGiving_nested]

/-- A negation may be moved into a list with parts, which changes the sign. -/
theorem not_group (h : ts ≠ []) :
    (! ·) <$> group go ts = group (!go) (ts.map ((! ·) <$> ·)) := by
  have hmap : ts.map ((! ·) <$> ·) ≠ [] := by simp [h]
  rw [group_of_ne_nil h, group_of_ne_nil hmap, not_whileGiving]

end Traced

namespace Expression
variable {decide : Condition → Traced Bool} {e x y : Expression} {es : List Expression}
  {place other : List Nat} {i : Nat} {f : Expression → Expression}

/-! ## Replacing what stands at a place -/

/-- The expression with the part that has the number `i` changed. -/
def modifyChild (i : Nat) (f : Expression → Expression) : Expression → Expression
  | .not child => if i = 0 then .not (f child) else .not child
  | .allOf es => .allOf (es.modify i f)
  | .anyOf es => .anyOf (es.modify i f)
  | .condition c => .condition c
  | .empty => .empty

/-- The expression with `y` in place of what stands at a place. -/
def replaceAt (e : Expression) (place : List Nat) (y : Expression) : Expression :=
  match place with
  | [] => y
  | i :: place => e.modifyChild i (·.replaceAt place y)

theorem children_modifyChild (i : Nat) (f : Expression → Expression) (e : Expression) :
    (e.modifyChild i f).children = e.children.modify i f := by
  cases e with
  | not child =>
    cases i with
    | zero => rfl
    | succ i => simp [modifyChild, children]
  | allOf es => rfl
  | anyOf es => rfl
  | condition c => cases i <;> rfl
  | empty => cases i <;> rfl

/-- What has been put at a place stands there. -/
theorem at?_replaceAt (hx : e.at? place = some x) :
    (e.replaceAt place y).at? place = some y := by
  induction place generalizing e with
  | nil => rfl
  | cons i place ih =>
    obtain ⟨d, hd, hx⟩ := at?_cons_eq_some_iff.mp hx
    refine at?_cons_eq_some_iff.mpr ⟨d.replaceAt place y, ?_, ih hx⟩
    rw [replaceAt, children_modifyChild, List.getElem?_modify, hd]
    simp

/-- At a place that is neither above nor below it, nothing changes. -/
theorem at?_replaceAt_of_not_prefix (habove : ¬ other <+: place) (hbelow : ¬ place <+: other) :
    (e.replaceAt place y).at? other = e.at? other := by
  induction place generalizing e other with
  | nil => exact absurd List.nil_prefix hbelow
  | cons i place ih =>
    cases other with
    | nil => exact absurd List.nil_prefix habove
    | cons j other =>
      rw [at?, at?, replaceAt, children_modifyChild, List.getElem?_modify]
      by_cases hij : i = j
      · subst hij
        rw [List.prefix_cons_inj] at habove hbelow
        cases e.children[i]? with
        | none => rfl
        | some d => simpa using ih habove hbelow
      · cases e.children[j]? with
        | none => rfl
        | some d => simp [hij]

/-! ## What is around an expression -/

theorem evaluate_not (x : Expression) :
    (Expression.not x).evaluate decide = (! ·) <$> x.evaluate decide :=
  rfl

/-- The conjunction of expressions, or their disjunction. -/
def junction : (conjunction : Bool) → List Expression → Expression
  | true, es => .allOf es
  | false, es => .anyOf es

theorem evaluate_junction (go : Bool) (es : List Expression) :
    (junction go es).evaluate decide = Traced.group go (es.map (·.evaluate decide)) := by
  cases go with
  | true => rw [junction, evaluate_allOf, evaluateWhile_eq, Traced.group, List.isEmpty_map]
  | false => rw [junction, evaluate_anyOf, evaluateWhile_eq, Traced.group, List.isEmpty_map]

/-- Changing a part into one that is evaluated alike changes no evaluation of the parts. -/
theorem map_evaluate_modify (hx : es[i]? = some x)
    (h : (f x).evaluate decide = x.evaluate decide) :
    (es.modify i f).map (·.evaluate decide) = es.map (·.evaluate decide) := by
  refine List.ext_getElem? fun j => ?_
  rw [List.getElem?_map, List.getElem?_map, List.getElem?_modify]
  by_cases hij : i = j
  · subst hij
    simp [hx, h]
  · simp [hij]

theorem evaluate_junction_modify (go : Bool) (hx : es[i]? = some x)
    (h : (f x).evaluate decide = x.evaluate decide) :
    (junction go (es.modify i f)).evaluate decide = (junction go es).evaluate decide := by
  rw [evaluate_junction, evaluate_junction, map_evaluate_modify hx h]

theorem evaluate_modifyChild (hx : e.children[i]? = some x)
    (h : (f x).evaluate decide = x.evaluate decide) :
    (e.modifyChild i f).evaluate decide = e.evaluate decide := by
  cases e with
  | not child =>
    cases i with
    | zero =>
      obtain rfl := Option.some.inj hx
      rw [modifyChild, if_pos rfl, evaluate_not, evaluate_not, h]
    | succ i => cases hx
  | allOf es => exact evaluate_junction_modify true hx h
  | anyOf es => exact evaluate_junction_modify false hx h
  | condition c => cases hx
  | empty => cases hx

/-- **What is evaluated alike may stand for each other anywhere.** -/
theorem evaluate_replaceAt (hx : e.at? place = some x)
    (h : y.evaluate decide = x.evaluate decide) :
    (e.replaceAt place y).evaluate decide = e.evaluate decide := by
  induction place generalizing e with
  | nil =>
    obtain rfl := Option.some.inj hx
    exact h
  | cons i place ih =>
    obtain ⟨d, hd, hx⟩ := at?_cons_eq_some_iff.mp hx
    exact evaluate_modifyChild hd (ih hx)

/-! ## Laws -/

/-- The laws of Boolean algebra that hold of conditions with effects. -/
inductive Law : Expression → Expression → Prop where
  | doubleNegation (x : Expression) : Law (.not (.not x)) x
  | notAllOf {es : List Expression} (h : es ≠ []) :
    Law (.not (.allOf es)) (.anyOf (es.map .not))
  | notAnyOf {es : List Expression} (h : es ≠ []) :
    Law (.not (.anyOf es)) (.allOf (es.map .not))
  | nestedAllOf (before after : List Expression) {es : List Expression} (h : es ≠ []) :
    Law (.allOf (before ++ [.allOf es] ++ after)) (.allOf (before ++ es ++ after))
  | nestedAnyOf (before after : List Expression) {es : List Expression} (h : es ≠ []) :
    Law (.anyOf (before ++ [.anyOf es] ++ after)) (.anyOf (before ++ es ++ after))
  | singleAllOf (x : Expression) : Law (.allOf [x]) x
  | singleAnyOf (x : Expression) : Law (.anyOf [x]) x

/-- A negation may be moved into a list with parts. -/
theorem evaluate_not_junction (go : Bool) (h : es ≠ []) :
    (Expression.not (junction go es)).evaluate decide =
      (junction (!go) (es.map .not)).evaluate decide := by
  have hparts : es.map (·.evaluate decide) ≠ [] := by simp [h]
  rw [evaluate_not, evaluate_junction, Traced.not_group hparts, evaluate_junction, List.map_map,
    List.map_map]
  rfl

/-- The parts of a list may be moved to the list of the same sign around it, if there are any. -/
theorem evaluate_nested_junction (go : Bool) (h : es ≠ []) (before after : List Expression) :
    (junction go (before ++ [junction go es] ++ after)).evaluate decide =
      (junction go (before ++ es ++ after)).evaluate decide := by
  have hparts : es.map (·.evaluate decide) ≠ [] := by simp [h]
  simp only [evaluate_junction, List.map_append, List.map_cons, List.map_nil]
  exact Traced.group_nested hparts _ _

theorem evaluate_junction_singleton (go : Bool) (x : Expression) :
    (junction go [x]).evaluate decide = x.evaluate decide := by
  rw [evaluate_junction]
  exact Traced.group_singleton go _

/-- The two sides of a law are evaluated alike. -/
theorem Law.evaluate_eq (h : Law x y) : x.evaluate decide = y.evaluate decide := by
  cases h with
  | doubleNegation =>
    rw [evaluate_not, evaluate_not, Functor.map_map]
    simp only [Bool.not_not, id_map']
  | notAllOf hne => exact evaluate_not_junction true hne
  | notAnyOf hne => exact evaluate_not_junction false hne
  | nestedAllOf before after hne => exact evaluate_nested_junction true hne before after
  | nestedAnyOf before after hne => exact evaluate_nested_junction false hne before after
  | singleAllOf => exact evaluate_junction_singleton true y
  | singleAnyOf => exact evaluate_junction_singleton false y

/-- So are two expressions that are joined by a chain of laws, each read in either direction. -/
theorem evaluate_eq_of_laws (h : Relation.EqvGen Law x y) :
    x.evaluate decide = y.evaluate decide := by
  induction h with
  | rel x y h => exact h.evaluate_eq
  | refl x => rfl
  | symm x y _ ih => exact ih.symm
  | trans x y z _ _ ihxy ihyz => exact ihxy.trans ihyz

end Expression

namespace Registry

open Expression

/-- **The laws may be applied anywhere.**  Suppose that laws join two expressions, each law being
read in either direction.  Wherever one of the two stands in an expression, the other may be put in
its place, which changes nothing beside it: the expression evaluates to the same with the same calls
and events in the same order, whatever matchers there are and whatever the context. -/
theorem evaluate_of_laws (r : Registry) (ctx : Context) {e x y : Expression} {place : List Nat}
    (hlaws : Relation.EqvGen Law x y) (hx : e.at? place = some x) :
    (e.replaceAt place y).at? place = some y ∧
    (∀ other, ¬ other <+: place → ¬ place <+: other →
      (e.replaceAt place y).at? other = e.at? other) ∧
    r.evaluate ctx (e.replaceAt place y) = r.evaluate ctx e := by
  have hsame : y.evaluate (r.decide ctx) = x.evaluate (r.decide ctx) :=
    (evaluate_eq_of_laws hlaws).symm
  refine ⟨at?_replaceAt hx, ?_, evaluate_replaceAt hx hsame⟩
  intro other habove hbelow
  exact at?_replaceAt_of_not_prefix habove hbelow

namespace Moved

/-- A condition of a kind that no matcher is for. -/
def unknown : Expression := .condition { kind := "nonesuch" }

/-- A condition that holds of the input `hi`. -/
def greeting : Expression := .condition { kind := "message_prefix", value := some "h" }

/-- Under a negation and in a list, a negated disjunction. -/
def whole : Expression := .not (.allOf [greeting, .not (.anyOf [unknown, greeting]), unknown])

def context : Context := { input := some "hi" }

end Moved

open Moved in
/-- The negation is moved into the disjunction.  The condition of the unknown kind is warned of
once, before the matcher is called for the second time. -/
theorem evaluate_of_laws_moved :
    Relation.EqvGen Law (.not (.anyOf [unknown, greeting]))
      (.allOf [.not unknown, .not greeting]) ∧
    whole.at? [0, 1] = some (.not (.anyOf [unknown, greeting])) ∧
    (build [] {}).result.evaluate context
        (.not (.allOf [greeting, .allOf [.not unknown, .not greeting], unknown])) =
      ⟨true, [.call "message_prefix" { kind := "message_prefix", value := some "h" },
        .log (.unknownKind "nonesuch"),
        .call "message_prefix" { kind := "message_prefix", value := some "h" }]⟩ := by
  have hlaw : Law (.not (.anyOf [unknown, greeting])) (.allOf [.not unknown, .not greeting]) :=
    .notAnyOf (List.cons_ne_nil _ _)
  have hat : whole.at? [0, 1] = some (.not (.anyOf [unknown, greeting])) := rfl
  obtain ⟨-, -, hsame⟩ := evaluate_of_laws (build [] {}).result context (.rel _ _ hlaw) hat
  exact ⟨.rel _ _ hlaw, hat, hsame.trans (by rfl)⟩

/-- Without parts the negation may not be moved: one side is true, the other is not. -/
example (r : Registry) (ctx : Context) :
    (r.evaluate ctx (.not (.allOf []))).result = true ∧
      (r.evaluate ctx (.anyOf ([].map .not))).result = false :=
  ⟨rfl, rfl⟩

end Registry

end IntentSelect
