import IntentSelect.Json.Writer
import IntentSelect.Proofs.RecordParts

/-! # Records whatever the order of their fields

A record is read by folding over the fields of an object as they stand.  If its slots change
different things (`Slot.Independent`) and no field is given twice, it can as well be read slot
by slot, each looking for the field of its name (`fillSlots`), so the order of the fields does
not matter (`ofValue_object_of_fillSlots`).  In particular what has been written in the order of
declaration may be put in the order of keys before it is read (`ofValue_canonical_object`).

What a writer puts under a name is found again by that name (`get?_always` and the like), so
with this a record that has been written is read field by field.
-/
namespace IntentSelect.Json

/-! ## Slot by slot -/

namespace Slot
variable {α β σ : Type} {slot a b : Slot σ} {s s' : σ} {v : Value} {v? : Option Value}
  {name : String} {required : Bool} {r : Reading α}

/-- What a slot makes of the field of its name, if the field is given. -/
def take (slot : Slot σ) (v? : Option Value) (s : σ) : Except Cause σ :=
  match v? with
  | none => .ok s
  | some v => (slot.reading.ofValue v).map fun change => change s

/-- Two slots of different names, which may be filled in either order. -/
structure Independent (a b : Slot σ) : Prop where
  ne : a.name ≠ b.name
  comm : ∀ v w change change', a.reading.ofValue v = .ok change →
    b.reading.ofValue w = .ok change' → ∀ s, change (change' s) = change' (change s)

theorem independent_of_set {name name' : String} {required required' : Bool} {r : Reading α}
    {r' : Reading β} {set : α → σ → σ} {set' : β → σ → σ} (hne : name ≠ name')
    (hcomm : ∀ x y s, set x (set' y s) = set' y (set x s)) :
    Independent ⟨name, required, r.map set⟩ ⟨name', required', r'.map set'⟩ := by
  refine ⟨hne, ?_⟩
  intro v w change change' hchange hchange' s
  obtain ⟨x, -, rfl⟩ := map_eq_ok_iff.mp hchange
  obtain ⟨y, -, rfl⟩ := map_eq_ok_iff.mp hchange'
  exact hcomm x y s

theorem take_some_eq_ok_iff :
    slot.take (some v) s = .ok s' ↔ ∃ change, slot.reading.ofValue v = .ok change ∧ change s = s' :=
  map_eq_ok_iff

/-- A slot does the same before and after the change of another one. -/
theorem take_change {change : σ → σ} (hab : a.Independent b) (h : a.take v? s = .ok s')
    (hchange : b.reading.ofValue v = .ok change) : a.take v? (change s) = .ok (change s') := by
  cases v? with
  | none =>
    cases h
    rfl
  | some w =>
    obtain ⟨change', hchange', rfl⟩ := take_some_eq_ok_iff.mp h
    exact take_some_eq_ok_iff.mpr ⟨change', hchange', hab.comm w v _ _ hchange' hchange s⟩

theorem take_of_ofValue {set : α → σ → σ} {x : α} (h : r.ofValue v = .ok x) :
    take ⟨name, required, r.map set⟩ (some v) s = .ok (set x s) :=
  take_some_eq_ok_iff.mpr ⟨set x, map_eq_ok_iff.mpr ⟨x, h, rfl⟩, rfl⟩

/-- A part that is written if it is there is read as what is there, if being without it is how
things were before. -/
theorem take_nullable {set : Option α → σ → σ} {write : β → Value} {o : Option β} {f : β → α}
    (hnone : set none s = s) (h : ∀ x ∈ o, write x ≠ .null ∧ r.ofValue (write x) = .ok (f x)) :
    take ⟨name, required, r.nullable.map set⟩ (o.map write) s = .ok (set (o.map f) s) := by
  cases o with
  | none =>
    rw [Option.map_none, Option.map_none, hnone]
    rfl
  | some y =>
    obtain ⟨hnull, hread⟩ := h y rfl
    refine take_of_ofValue (Reading.ofValue_nullable_eq_ok_iff.mpr (.inr ?_))
    exact ⟨hnull, f y, hread, rfl⟩

theorem take_nullable_self {set : Option α → σ → σ} {write : α → Value} {o : Option α}
    (hnone : set none s = s) (h : ∀ x ∈ o, write x ≠ .null ∧ r.ofValue (write x) = .ok x) :
    take ⟨name, required, r.nullable.map set⟩ (o.map write) s = .ok (set o s) := by
  rw [take_nullable hnone h, Option.map_id']

end Slot

namespace Reading
variable {α β σ : Type} {slots : List (Slot σ)} {slot : Slot σ} {entries : List (String × Value)}
  {field? field?' : String → Option Value} {seen : List String} {s s' start : σ} {key : String}
  {v : Value}

/-- Fills slots one after the other, each from the field of its name. -/
def fillSlots (field? : String → Option Value) : List (Slot σ) → σ → Except Cause σ
  | [], s => .ok s
  | slot :: slots, s => do
    let s ← slot.take (field? slot.name) s
    fillSlots field? slots s

theorem fillSlots_congr (h : ∀ slot ∈ slots, field? slot.name = field?' slot.name) :
    fillSlots field? slots s = fillSlots field?' slots s := by
  induction slots generalizing s with
  | nil => rfl
  | cons slot slots ih =>
    obtain ⟨hslot, hslots⟩ := List.forall_mem_cons.mp h
    rw [fillSlots, fillSlots, hslot]
    exact bind_congr fun s => ih hslots

theorem ofValue_list_map {r : Reading β} {write : α → Value} {f : α → β} {xs : List α}
    (h : ∀ x ∈ xs, r.ofValue (write x) = .ok (f x)) :
    (Reading.list r).ofValue (.array (xs.map write)) = .ok (xs.map f) := by
  refine ofValue_list_eq_ok_iff.mpr ⟨_, rfl, ?_⟩
  rw [List.forall₂_map_left_iff, List.forall₂_map_right_iff, List.forall₂_same]
  exact h

theorem ofValue_text (t : String) : text.ofValue (.string t) = .ok t := rfl

theorem ofValue_flag (b : Bool) : flag.ofValue (.bool b) = .ok b := rfl

/-! ## Entry by entry -/

/-- The field that stands first can be taken first. -/
theorem fillSlots_cons (hslots : slots.Pairwise Slot.Independent) (hmem : slot ∈ slots)
    (hnew : slot.name ∉ Fields.keys entries)
    (h : fillSlots (Fields.get? · ((slot.name, v) :: entries)) slots s = .ok s') :
    ∃ change, slot.reading.ofValue v = .ok change ∧
      fillSlots (Fields.get? · entries) slots (change s) = .ok s' := by
  induction slots generalizing s with
  | nil => cases hmem
  | cons t slots ih =>
    obtain ⟨hothers, hslots⟩ := List.pairwise_cons.mp hslots
    obtain ⟨s₁, ht, h⟩ := bind_eq_ok_iff.mp h
    rcases List.mem_cons.mp hmem with rfl | hmem
    · -- the other slots have other names, so they do not see the entry
      simp only [Fields.get?, ↓reduceIte] at ht
      obtain ⟨change, hchange, rfl⟩ := Slot.take_some_eq_ok_iff.mp ht
      have hrest : fillSlots (Fields.get? · entries) slots (change s) = .ok s' := by
        rw [← h]
        exact fillSlots_congr fun u hu => (if_neg (hothers u hu).ne).symm
      refine ⟨change, hchange, ?_⟩
      simp only [fillSlots, Fields.get?_eq_none_iff.mpr hnew]
      exact hrest
    · have hne : slot.name ≠ t.name := (hothers slot hmem).ne.symm
      simp only [Fields.get?, if_neg hne] at ht
      obtain ⟨change, hchange, h⟩ := ih hslots hmem h
      refine ⟨change, hchange, bind_eq_ok_iff.mpr ⟨change s₁, ?_, h⟩⟩
      exact Slot.take_change (hothers slot hmem) ht hchange

/-- Without fields nothing changes. -/
theorem fillSlots_of_none (h : ∀ slot ∈ slots, field? slot.name = none) :
    fillSlots field? slots s = .ok s := by
  induction slots with
  | nil => rfl
  | cons slot slots ih =>
    obtain ⟨hslot, hslots⟩ := List.forall_mem_cons.mp h
    rw [fillSlots, hslot]
    exact ih hslots

/-- What can be read slot by slot can be read entry by entry, and what is there is seen. -/
theorem fillByName_of_fillSlots (hslots : slots.Pairwise Slot.Independent)
    (hnodup : (Fields.keys entries).Nodup) (hnew : ∀ key ∈ Fields.keys entries, key ∉ seen)
    (h : fillSlots (Fields.get? · entries) slots s = .ok s') :
    ∃ seen', fillByName slots entries seen s = .ok (s', seen') ∧ seen ⊆ seen' ∧
      ∀ slot ∈ slots, slot.name ∈ Fields.keys entries → slot.name ∈ seen' := by
  induction entries generalizing seen s with
  | nil =>
    rw [fillSlots_of_none fun slot _ => rfl] at h
    cases h
    exact ⟨seen, rfl, List.Subset.refl seen, fun slot _ hmem => (List.not_mem_nil hmem).elim⟩
  | cons e rest ih =>
    obtain ⟨key, v⟩ := e
    obtain ⟨hnot, hrest⟩ := List.nodup_cons.mp hnodup
    obtain ⟨hkey, hothers⟩ := List.forall_mem_cons.mp hnew
    rw [fillByName]
    cases hslot : slots.find? fun slot => slot.name == key with
    | none =>
      have hne : ∀ slot ∈ slots, slot.name ≠ key := fun slot hmem h =>
        List.find?_eq_none.mp hslot slot hmem (beq_iff_eq.mpr h)
      have hrestFill : fillSlots (Fields.get? · rest) slots s = .ok s' := by
        rw [← h]
        exact fillSlots_congr fun slot hmem => (if_neg (hne slot hmem).symm).symm
      obtain ⟨seen', hfill, hsub, hseen⟩ := ih hrest hothers hrestFill
      refine ⟨seen', hfill, hsub, fun slot hmem hkeys => hseen slot hmem ?_⟩
      exact (List.mem_cons.mp hkeys).resolve_left (hne slot hmem)
    | some slot =>
      obtain ⟨hmem, rfl⟩ := find?_eq_some hslot
      obtain ⟨change, hchange, h⟩ := fillSlots_cons hslots hmem hnot h
      have hnew' : ∀ key ∈ Fields.keys rest, key ∉ slot.name :: seen := by
        intro key hmem hcons
        rcases List.mem_cons.mp hcons with rfl | hcons
        · exact hnot hmem
        · exact hothers key hmem hcons
      obtain ⟨seen', hfill, hsub, hseen⟩ := ih hrest hnew' h
      obtain ⟨hname, hsub⟩ := List.cons_subset.mp hsub
      refine ⟨seen', ?_, hsub, fun t ht hkeys => ?_⟩
      · have hfresh : ¬ seen.contains slot.name = true := fun h =>
          hkey (List.contains_iff_mem.mp h)
        simp only [if_neg hfresh]
        exact bind_eq_ok_iff.mpr ⟨change, hchange, hfill⟩
      · rcases List.mem_cons.mp hkeys with heq | hkeys
        · exact heq ▸ hname
        · exact hseen t ht hkeys

/-! ## Whole records -/

/-- **The order of the fields does not matter.** -/
theorem ofValue_object_of_fillSlots {record : String} (hslots : slots.Pairwise Slot.Independent)
    (hnodup : (Fields.keys entries).Nodup)
    (hrequired : ∀ slot ∈ slots, slot.required = true → slot.name ∈ Fields.keys entries)
    (h : fillSlots (Fields.get? · entries) slots start = .ok s) :
    (Reading.record record slots start).ofValue (.object entries) = .ok s := by
  obtain ⟨seen, hfill, -, hseen⟩ := fillByName_of_fillSlots hslots hnodup
    (fun _ _ => List.not_mem_nil) h
  refine ofValue_object_eq_ok_iff.mpr ⟨seen, hfill, missing?_eq_none_iff.mpr ?_⟩
  exact fun slot hmem hslot => hseen slot hmem (hrequired slot hmem hslot)

end Reading

/-! ## What has been written -/

section Written
variable {α : Type} {k name : String} {v : Value} {write : α → Value} {o : Option α} {xs : List α}
  {entries entries' : List (String × Value)}

theorem canonicalItems_eq (items : List Value) :
    canonicalItems items = items.map Value.canonical := by
  induction items with
  | nil => rfl
  | cons v rest ih => rw [canonicalItems, ih, List.map_cons]

theorem canonical_array (items : List Value) :
    (Value.array items).canonical = .array (items.map Value.canonical) := by
  rw [Value.canonical, canonicalItems_eq]

@[simp] theorem Fields.keys_canonicalFields (entries : List (String × Value)) :
    keys (canonicalFields entries) = keys entries := by
  induction entries with
  | nil => rfl
  | cons e rest ih => rw [canonicalFields, keys_cons, keys_cons, ih]

theorem Fields.get?_canonicalFields (k : String) (entries : List (String × Value)) :
    get? k (canonicalFields entries) = (get? k entries).map Value.canonical := by
  induction entries with
  | nil => rfl
  | cons e rest ih =>
    rw [canonicalFields, get?, get?, ih]
    split <;> rfl

theorem Fields.get?_append :
    get? k (entries ++ entries') = (get? k entries).or (get? k entries') := by
  induction entries with
  | nil => rfl
  | cons e rest ih =>
    rw [List.cons_append, get?, get?, ih]
    split <;> rfl

theorem Fields.get?_always : get? k (always name v) = if name = k then some v else none := rfl

theorem Fields.get?_whenSome :
    get? k (whenSome name write o) = if name = k then o.map write else none := by
  cases o with
  | none => simp [whenSome, get?]
  | some x => rfl

theorem Fields.get?_whenNonempty_of_ne (h : name ≠ k) :
    get? k (whenNonempty name write xs) = none := by
  cases xs <;> simp [whenNonempty, get?, h]

/-- A list that is written unless it is empty is read as it is, if an empty list is how things
were before. -/
theorem Slot.take_whenNonempty {β σ : Type} {required : Bool} {r : Reading β}
    {set : Option (List β) → σ → σ} {f : α → β} {s : σ} (hnil : set (some []) s = s)
    (h : ∀ x ∈ xs, r.ofValue (write x) = .ok (f x)) :
    take ⟨name, required, (Reading.list r).nullable.map set⟩
      (Fields.get? name (whenNonempty name write xs)) s = .ok (set (some (xs.map f)) s) := by
  cases xs with
  | nil =>
    rw [List.map_nil, hnil]
    rfl
  | cons x xs =>
    have hget : Fields.get? name (whenNonempty name write (x :: xs)) =
        some (.array ((x :: xs).map write)) := if_pos rfl
    rw [hget]
    refine take_of_ofValue (Reading.ofValue_nullable_eq_ok_iff.mpr (.inr ⟨nofun, _, ?_, rfl⟩))
    exact Reading.ofValue_list_map h

theorem Fields.nodup_keys_always : (keys (always name v)).Nodup := List.nodup_singleton name

theorem Fields.nodup_keys_whenSome : (keys (whenSome name write o)).Nodup := by
  cases o <;> simp [whenSome]

theorem Fields.nodup_keys_whenNonempty : (keys (whenNonempty name write xs)).Nodup := by
  cases xs <;> simp [whenNonempty]

theorem Fields.mem_keys_always : k ∈ keys (always name v) ↔ k = name := List.mem_singleton

theorem Fields.mem_keys_whenSome : k ∈ keys (whenSome name write o) ↔ k = name ∧ o ≠ none := by
  cases o <;> simp [whenSome]

theorem Fields.mem_keys_whenNonempty :
    k ∈ keys (whenNonempty name write xs) ↔ k = name ∧ xs ≠ [] := by
  cases xs <;> simp [whenNonempty]

theorem Fields.forall_mem_always {P : String × Value → Prop} :
    (∀ e ∈ always name v, P e) ↔ P (name, v) :=
  List.forall_mem_singleton

theorem Fields.forall_mem_whenSome {P : String × Value → Prop} :
    (∀ e ∈ whenSome name write o, P e) ↔ ∀ x ∈ o, P (name, write x) := by
  cases o <;> simp [whenSome]

theorem Fields.forall_mem_whenNonempty {P : String × Value → Prop} :
    (∀ e ∈ whenNonempty name write xs, P e) ↔ (xs ≠ [] → P (name, .array (xs.map write))) := by
  cases xs <;> simp [whenNonempty]

theorem canonicalFields_eq_self_iff :
    canonicalFields entries = entries ↔ ∀ e ∈ entries, e.2.canonical = e.2 := by
  induction entries with
  | nil => simp [canonicalFields]
  | cons e rest ih =>
    rw [canonicalFields, List.cons.injEq, Prod.ext_iff, ih, List.forall_mem_cons]
    simp only [true_and]

/-! ### Depth -/

theorem depth_le_itemsDepth {items : List Value} (h : v ∈ items) : v.depth ≤ itemsDepth items := by
  induction items with
  | nil => cases h
  | cons w items ih =>
    rw [itemsDepth]
    rcases List.mem_cons.mp h with rfl | h
    · exact Nat.le_max_left _ _
    · exact Nat.le_trans (ih h) (Nat.le_max_right _ _)

theorem depth_le_fieldsDepth (h : (k, v) ∈ entries) : v.depth ≤ fieldsDepth entries := by
  induction entries with
  | nil => cases h
  | cons e rest ih =>
    rw [fieldsDepth]
    rcases List.mem_cons.mp h with rfl | h
    · exact Nat.le_max_left _ _
    · exact Nat.le_trans (ih h) (Nat.le_max_right _ _)

/-- A field that has been written lies less deep than the object. -/
theorem depth_canonical_lt (hnodup : (Fields.keys entries).Nodup)
    (h : Fields.get? k entries = some v) :
    v.canonical.depth < (Value.object entries).canonical.depth := by
  have hkeys : (Fields.keys (canonicalFields entries)).Nodup := by
    rwa [Fields.keys_canonicalFields]
  have hmem : (k, v.canonical) ∈ canonicalFields entries := by
    refine Fields.mem_of_get?_eq_some ?_
    rw [Fields.get?_canonicalFields, h]
    rfl
  exact Nat.lt_succ_of_le (depth_le_fieldsDepth ((Fields.ofList_perm hkeys).mem_iff.mpr hmem))

end Written

namespace Reading
variable {α β σ : Type} {slots : List (Slot σ)} {entries : List (String × Value)} {s start : σ}

/-- **A record is read from what has been written** once its fields are in the order of their
keys, if it can be read slot by slot. -/
theorem ofValue_canonical_object {record : String} (hslots : slots.Pairwise Slot.Independent)
    (hnodup : (Fields.keys entries).Nodup)
    (hrequired : ∀ slot ∈ slots, slot.required = true → slot.name ∈ Fields.keys entries)
    (h : fillSlots (fun k => (Fields.get? k entries).map Value.canonical) slots start = .ok s) :
    (Reading.record record slots start).ofValue (Value.object entries).canonical = .ok s := by
  have hkeys : (Fields.keys (canonicalFields entries)).Nodup := by
    rwa [Fields.keys_canonicalFields]
  have hperm := Fields.ofList_perm hkeys
  have hsorted := (Fields.ascending_ofList (canonicalFields entries)).nodup
  refine ofValue_object_of_fillSlots hslots hsorted (fun slot hmem hslot => ?_) ?_
  · refine ((hperm.map Prod.fst).mem_iff).mpr ?_
    have := hrequired slot hmem hslot
    rwa [← Fields.keys_canonicalFields] at this
  · rw [← h]
    refine fillSlots_congr fun slot _ => ?_
    rw [Fields.get?_eq_of_perm hperm hsorted, Fields.get?_canonicalFields]

end Reading

end IntentSelect.Json
