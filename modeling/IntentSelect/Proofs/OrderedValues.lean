import IntentSelect.Proofs.FieldOrder
import IntentSelect.Proofs.ReadingResults

/-! # Values whose objects are maps

A value is ordered if the keys of all its objects ascend, at any depth, which leaves no room for
a key to occur twice; putting it in canonical form then changes nothing.  Every value that is
read from a text is ordered, whatever the order of the fields in the text and however often a
key occurs there (`ordered_of_scanValue`): fields are put together key by key.
-/
namespace IntentSelect.Json
variable {v : Value} {items : List Value} {fields : List (String × Value)} {key : String}

/-- All objects in a value are maps in ascending order of their keys. -/
def Value.Ordered (v : Value) : Prop := v.canonical = v

namespace Value

theorem ordered_array_iff : (array items).Ordered ↔ ∀ v ∈ items, v.Ordered := by
  rw [Ordered, canonical_array, array.injEq]
  induction items with
  | nil => simp
  | cons v items ih => simp [Ordered, ih]

theorem ordered_object_iff :
    (object fields).Ordered ↔ Fields.Ascending fields ∧ ∀ e ∈ fields, e.2.Ordered := by
  rw [Ordered, canonical, object.injEq]
  constructor
  · intro h
    have hascending : Fields.Ascending fields := h ▸ Fields.ascending_ofList _
    have hcanonical : Fields.Ascending (canonicalFields fields) := by
      rwa [Fields.Ascending, Fields.keys_canonicalFields]
    rw [hcanonical.ofList_eq] at h
    exact ⟨hascending, canonicalFields_eq_self_iff.mp h⟩
  · rintro ⟨hascending, hvalues⟩
    rw [canonicalFields_eq_self_iff.mpr hvalues, hascending.ofList_eq]

theorem hereditary_ordered : Hereditary Ordered :=
  ⟨ordered_array_iff.mp, fun h => (ordered_object_iff.mp h).2⟩

end Value

theorem Fields.mem_put {e : String × Value} (h : e ∈ put key v fields) :
    e = (key, v) ∨ e ∈ fields := by
  induction fields with
  | nil => exact .inl (List.mem_singleton.mp h)
  | cons e' rest ih =>
    rw [put] at h
    split at h
    · rcases List.mem_cons.mp h with h | h
      · exact .inl h
      · exact .inr h
    · split at h
      · rcases List.mem_cons.mp h with h | h
        · exact .inl h
        · exact .inr (List.mem_cons_of_mem _ h)
      · rcases List.mem_cons.mp h with rfl | h
        · exact .inr List.mem_cons_self
        · exact (ih h).imp_right (List.mem_cons_of_mem _)

theorem ordered_put (h : (Value.object fields).Ordered) (hv : v.Ordered) :
    (Value.object (Fields.put key v fields)).Ordered := by
  obtain ⟨hascending, hvalues⟩ := Value.ordered_object_iff.mp h
  refine Value.ordered_object_iff.mpr ⟨Fields.ascending_put hascending, fun e he => ?_⟩
  rcases Fields.mem_put he with rfl | he
  · exact hv
  · exact hvalues e he

namespace Reading
variable {cs rest : List Char} {d : Nat}

theorem ordered_nil : (Value.object []).Ordered := rfl

/-- Reads the value of a field and sets the field. -/
def scanPut (d : Nat) (fields : List (String × Value)) (key : String) (cs : List Char) :
    Except Fault (List (String × Value) × List Char) := do
  let rest ← scanColon cs
  let (v, rest) ← scanValue d rest
  return (Fields.put key v fields, rest)

/-- Entries that are put together one after the other, their values being ordered. -/
theorem ordered_of_scanEntries {fields : List (String × Value)}
    (hscan : ∀ {cs v rest}, scanValue d cs = .ok (v, rest) → v.Ordered)
    (h : scanEntries (scanPut d) [] cs = .ok (fields, rest)) :
    (Value.object fields).Ordered := by
  refine Ensures.of_scanEntriesWithin (I := fun fields => (Value.object fields).Ordered) ?_
    ordered_nil h
  intro fields key cs fields' rest hfields h
  obtain ⟨_, -, h⟩ := bind_eq_ok_iff.mp h
  obtain ⟨⟨v, _⟩, hv, h⟩ := bind_eq_ok_iff.mp h
  cases h
  exact ordered_put hfields (hscan hv)

/-- **Values that are read from a text are ordered.** -/
theorem ordered_of_scanValue (h : scanValue d cs = .ok (v, rest)) : v.Ordered := by
  induction d using Nat.strongRecOn generalizing cs v rest with
  | ind d ih =>
    rw [scanValue.eq_def] at h
    split at h
    · cases h
    -- words, numbers and strings have no parts
    iterate 5
      split at h
      · obtain ⟨_, -, heq⟩ := map_eq_ok_iff.mp h
        cases heq
        rfl
    split at h
    · split at h
      · cases h
      · next d' =>
        obtain ⟨⟨items, _⟩, hitems, heq⟩ := map_eq_ok_iff.mp h
        cases heq
        exact Value.ordered_array_iff.mpr
          (Ensures.of_scanItemsWithin (ih d' (Nat.lt_succ_self d')) hitems)
    split at h
    · split at h
      · cases h
      · next d' =>
        obtain ⟨⟨fields, _⟩, hfields, heq⟩ := map_eq_ok_iff.mp h
        cases heq
        exact ordered_of_scanEntries (ih d' (Nat.lt_succ_self d')) hfields
    · cases h

theorem ordered_of_parse {text : String} (h : Value.parse text = .ok v) : v.Ordered := by
  obtain ⟨rest, h, -⟩ := toEnd_eq_ok_iff.mp (mapError_eq_ok_iff.mp h)
  exact ordered_of_scanValue h

/-- The tables that are read are maps in ascending order of their keys. -/
theorem ensures_table :
    Ensures Value.Ordered table fun fields => (Value.object fields).Ordered where
  ofValue {v fields} hv h := by
    cases v with
    | object entries =>
      cases h
      exact hv
    | null => cases h
    | bool b => cases h
    | number n => cases h
    | string s => cases h
    | array items => cases h
  ofText h := by
    unfold table at h
    simp only at h
    split at h
    · split at h
      · cases h
      · exact ordered_of_scanEntries ordered_of_scanValue h
    · cases h

end Reading

end IntentSelect.Json
