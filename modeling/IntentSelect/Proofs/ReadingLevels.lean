import IntentSelect.Experience
import IntentSelect.Proofs.OrderedValues

/-! # Levels that make no difference

An expression contains others, so it is read with a number of levels.  From a value there are more
of them than the value is deep, from a text there are as many as a text may nest.  Neither is ever
used up: two readings that differ in their levels alone read the same from every value that is less
deep (`Reading.SameWithin`), and what is read from a text is never deeper than is allowed there
(`depth_le_of_scanValue`).
-/
namespace IntentSelect

open Json

namespace Json

/-! ## Depth of what has been read -/

theorem itemsDepth_le_iff {items : List Value} {n : Nat} :
    itemsDepth items ≤ n ↔ ∀ v ∈ items, v.depth ≤ n := by
  induction items with
  | nil => simp [itemsDepth]
  | cons v items ih => rw [itemsDepth, Nat.max_le, ih, List.forall_mem_cons]

theorem fieldsDepth_le_iff {fields : List (String × Value)} {n : Nat} :
    fieldsDepth fields ≤ n ↔ ∀ e ∈ fields, e.2.depth ≤ n := by
  induction fields with
  | nil => simp [fieldsDepth]
  | cons e fields ih => rw [fieldsDepth, Nat.max_le, ih, List.forall_mem_cons]

namespace Reading

theorem depth_le_of_scanEntries {d : Nat} {cs rest : List Char} {fields : List (String × Value)}
    (hscan : ∀ {cs v rest}, scanValue d cs = .ok (v, rest) → v.depth ≤ d)
    (h : scanEntries (scanPut d) [] cs = .ok (fields, rest)) : fieldsDepth fields ≤ d := by
  refine Ensures.of_scanEntriesWithin (I := fun fields => fieldsDepth fields ≤ d) ?_
    (show fieldsDepth [] ≤ d from Nat.zero_le d) h
  intro fields key cs fields' rest hfields h
  obtain ⟨_, -, h⟩ := bind_eq_ok_iff.mp h
  obtain ⟨⟨v, _⟩, hv, h⟩ := bind_eq_ok_iff.mp h
  cases h
  refine fieldsDepth_le_iff.mpr fun e he => ?_
  rcases Fields.mem_put he with rfl | he
  · exact hscan hv
  · exact fieldsDepth_le_iff.mp hfields e he

/-- **A value that is read from a text is not deeper than allowed.** -/
theorem depth_le_of_scanValue {d : Nat} {cs rest : List Char} {v : Value}
    (h : scanValue d cs = .ok (v, rest)) : v.depth ≤ d := by
  induction d using Nat.strongRecOn generalizing cs v rest with
  | ind d ih =>
    rw [scanValue.eq_def] at h
    split at h
    · cases h
    -- words, numbers and strings have no parts
    iterate 5
      split at h
      · obtain ⟨_, -, heq⟩ := map_eq_ok_iff.mp h
        cases heq
        exact Nat.zero_le d
    split at h
    · split at h
      · cases h
      · next d' =>
        obtain ⟨⟨items, _⟩, hitems, heq⟩ := map_eq_ok_iff.mp h
        cases heq
        exact Nat.succ_le_succ (itemsDepth_le_iff.mpr
          (Ensures.of_scanItemsWithin (ih d' (Nat.lt_succ_self d')) hitems))
    split at h
    · split at h
      · cases h
      · next d' =>
        obtain ⟨⟨fields, _⟩, hfields, heq⟩ := map_eq_ok_iff.mp h
        cases heq
        exact Nat.succ_le_succ (depth_le_of_scanEntries (ih d' (Nat.lt_succ_self d')) hfields)
    · cases h

/-! ## Readings that are the same up to a depth -/

section Same
variable {α β σ : Type} {r r' : Reading α} {n m : Nat}

/-- Two readings read the same from values of less than some depth. -/
def SameWithin (n : Nat) (r r' : Reading α) : Prop :=
  ∀ v : Value, v.depth < n → r.ofValue v = r'.ofValue v

theorem SameWithin.refl (n : Nat) (r : Reading α) : SameWithin n r r := fun _ _ => rfl

theorem SameWithin.mono (h : SameWithin n r r') (hm : m ≤ n) : SameWithin m r r' :=
  fun v hv => h v (Nat.lt_of_lt_of_le hv hm)

theorem SameWithin.map (h : SameWithin n r r') (f : α → β) : SameWithin n (r.map f) (r'.map f) :=
  fun v hv => congrArg (Except.map f) (h v hv)

theorem SameWithin.nullable (h : SameWithin n r r') : SameWithin n r.nullable r'.nullable := by
  intro v hv
  cases v with
  | null => rfl
  | bool _ => exact congrArg (Except.map some) (h _ hv)
  | number _ => exact congrArg (Except.map some) (h _ hv)
  | string _ => exact congrArg (Except.map some) (h _ hv)
  | array _ => exact congrArg (Except.map some) (h _ hv)
  | object _ => exact congrArg (Except.map some) (h _ hv)

theorem SameWithin.list (h : SameWithin n r r') :
    SameWithin n (Reading.list r) (Reading.list r') := by
  intro v hv
  cases v with
  | array items =>
    have hitems : ∀ v ∈ items, v.depth < n := fun v hmem =>
      Nat.lt_of_le_of_lt (depth_le_itemsDepth hmem) (Nat.lt_of_succ_lt hv)
    change items.mapM r.ofValue = items.mapM r'.ofValue
    clear hv
    induction items with
    | nil => rfl
    | cons v items ih =>
      obtain ⟨hv, hitems⟩ := List.forall_mem_cons.mp hitems
      rw [List.mapM_cons, List.mapM_cons, h v hv, ih hitems]
  | null => rfl
  | bool _ => rfl
  | number _ => rfl
  | string _ => rfl
  | object _ => rfl

end Same

/-! ### Records -/

section Record
variable {σ : Type} {n total index : Nat} {slots slots' : List (Slot σ)} {s start : σ}
  {items : List Value} {entries : List (String × Value)} {seen : List String} {name : String}

/-- Slots that are the same but for how deep they can read. -/
structure SameSlot (n : Nat) (a b : Slot σ) : Prop where
  name : a.name = b.name
  required : a.required = b.required
  reading : a.reading.SameWithin n b.reading

theorem SameSlot.refl (n : Nat) (a : Slot σ) : SameSlot n a a := ⟨rfl, rfl, .refl n a.reading⟩

theorem SameSlot.set {α : Type} {r r' : Reading α} {required : Bool} {set : α → σ → σ}
    (h : SameWithin n r r') :
    SameSlot n ⟨name, required, r.map set⟩ ⟨name, required, r'.map set⟩ :=
  ⟨rfl, rfl, h.map set⟩

theorem SameSlot.find? {p : String → Bool → Bool} (h : List.Forall₂ (SameSlot n) slots slots') :
    Option.Rel (SameSlot n) (slots.find? fun slot => p slot.name slot.required)
      (slots'.find? fun slot => p slot.name slot.required) := by
  induction h with
  | nil => exact .none
  | @cons a b _ _ hslot _ ih =>
    rw [List.find?_cons, List.find?_cons, hslot.name, hslot.required]
    cases p b.name b.required with
    | true => exact .some hslot
    | false => exact ih

theorem missing?_congr (h : List.Forall₂ (SameSlot n) slots slots') (seen : List String) :
    missing? slots seen = missing? slots' seen := by
  have hfound := SameSlot.find? (p := fun name required => required && !seen.contains name) h
  unfold missing?
  generalize (slots.find? _) = found at hfound ⊢
  generalize (slots'.find? _) = found' at hfound ⊢
  cases hfound with
  | none => rfl
  | some hslot => exact congrArg some hslot.name

theorem fillByName_congr (h : List.Forall₂ (SameSlot n) slots slots')
    (hentries : ∀ e ∈ entries, e.2.depth < n) :
    fillByName slots entries seen s = fillByName slots' entries seen s := by
  induction entries generalizing seen s with
  | nil => rfl
  | cons e entries ih =>
    obtain ⟨key, v⟩ := e
    obtain ⟨hv, hentries⟩ := List.forall_mem_cons.mp hentries
    have hfound := SameSlot.find? (p := fun name _ => name == key) h
    simp only [fillByName, ih hentries]
    generalize (slots.find? _) = found at hfound ⊢
    generalize (slots'.find? _) = found' at hfound ⊢
    cases hfound with
    | none => rfl
    | some hslot => simp only [hslot.reading v hv]

theorem fillInOrder_congr (h : List.Forall₂ (SameSlot n) slots slots')
    (hitems : ∀ v ∈ items, v.depth < n) :
    fillInOrder name total slots index items s = fillInOrder name total slots' index items s := by
  induction h generalizing index items s with
  | nil => rfl
  | cons hslot _ ih =>
    cases items with
    | nil => rw [fillInOrder, fillInOrder, hslot.required, ih hitems]
    | cons v items =>
      obtain ⟨hv, hitems⟩ := List.forall_mem_cons.mp hitems
      simp only [fillInOrder, hslot.reading v hv, ih hitems]

/-- A record is one deeper than its fields. -/
theorem SameWithin.record (h : List.Forall₂ (SameSlot n) slots slots') :
    SameWithin (n + 1) (record name slots start) (record name slots' start) := by
  intro v hv
  cases v with
  | array items =>
    have hitems : ∀ v ∈ items, v.depth < n := fun v hmem =>
      Nat.lt_of_le_of_lt (depth_le_itemsDepth hmem) (Nat.lt_of_succ_lt_succ hv)
    simp only [Reading.record, fillInOrder_congr h hitems, h.length_eq]
  | object entries =>
    have hentries : ∀ e ∈ entries, e.2.depth < n := fun e hmem =>
      Nat.lt_of_le_of_lt (depth_le_fieldsDepth hmem) (Nat.lt_of_succ_lt_succ hv)
    simp only [Reading.record, fillByName_congr h hentries, missing?_congr h]
  | null => rfl
  | bool _ => rfl
  | number _ => rfl
  | string _ => rfl

end Record

end Reading

end Json

open Json.Reading

/-! ## Expressions and experiences -/

theorem Expression.sameWithin_reading {k n m : Nat} (hn : k ≤ n) (hm : k ≤ m) :
    SameWithin k (reading n) (reading m) := by
  induction k generalizing n m with
  | zero => exact fun v hv => absurd hv (Nat.not_lt_zero _)
  | succ k ih =>
    obtain ⟨n, rfl⟩ : ∃ j, n = j + 1 := ⟨n - 1, by omega⟩
    obtain ⟨m, rfl⟩ : ∃ j, m = j + 1 := ⟨m - 1, by omega⟩
    have hchild : SameWithin k (reading n) (reading m) :=
      ih (Nat.le_of_succ_le_succ hn) (Nat.le_of_succ_le_succ hm)
    refine SameWithin.map (SameWithin.nullable (SameWithin.record ?_)) _
    exact .cons (.set hchild.list.nullable) (.cons (.set hchild.list.nullable)
      (.cons (.set hchild.nullable) (.cons (.refl k _) .nil)))

theorem FastIntent.sameWithin_reading {k n m : Nat} (hn : k ≤ n) (hm : k ≤ m) :
    SameWithin k (reading n) (reading m) := by
  have hexpression : SameWithin k (Expression.reading n) (Expression.reading m) :=
    Expression.sameWithin_reading hn hm
  refine SameWithin.mono (SameWithin.record ?_) (Nat.le_succ k)
  exact .cons (.refl k _) (.cons (.refl k _) (.cons (.set hexpression.nullable)
    (.cons (.refl k _) .nil)))

theorem Experience.sameWithin_reading {k n m : Nat} (hn : k ≤ n) (hm : k ≤ m) :
    SameWithin k (reading n) (reading m) := by
  have hfast : SameWithin k (FastIntent.reading n) (FastIntent.reading m) :=
    FastIntent.sameWithin_reading hn hm
  refine SameWithin.mono (SameWithin.record ?_) (Nat.le_succ k)
  exact .cons (.refl k _) (.cons (.refl k _) (.cons (.refl k _) (.cons (.refl k _)
    (.cons (.set hfast.nullable) (.cons (.refl k _) .nil)))))

end IntentSelect
