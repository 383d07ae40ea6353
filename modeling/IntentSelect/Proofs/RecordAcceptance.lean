import IntentSelect.Proofs.OrderedValues

/-! # Which values are accepted

A reading accepts a value if it reads something from it, whatever that is (`Reading.Accepts`).
For each way of putting readings together, what is accepted can be told from what the parts
accept.  For a record (`accepts_record_iff`) the value has to be an object, or an array that is not
too long, and every field that is given has to be accepted by the slot of its name.  How far the
record has been put together does not come into it, nor does the order of the fields.
-/
namespace IntentSelect.Json

/-- A value that the fields of a record can be read from: an object, or an array with at most `n`
elements. -/
def Value.IsRecord (n : Nat) : Value → Prop
  | .object _ => True
  | .array items => items.length ≤ n
  | _ => False

/-- A field of an ordered value is ordered. -/
theorem Value.Ordered.field? {v w : Value} {names : List String} {name : String} (hv : v.Ordered)
    (h : v.field? names name = some w) : w.Ordered := by
  rcases part_of_field? h with ⟨items, rfl, hmem⟩ | ⟨entries, rfl, hmem⟩
  · exact ordered_array_iff.mp hv w hmem
  · exact (ordered_object_iff.mp hv).2 (name, w) hmem

/-- A field lies less deep than the value that has it. -/
theorem Value.depth_lt_of_field? {v w : Value} {names : List String} {name : String}
    (h : v.field? names name = some w) : w.depth < v.depth := by
  rcases part_of_field? h with ⟨items, rfl, hmem⟩ | ⟨entries, rfl, hmem⟩
  · exact Nat.lt_succ_of_le (depth_le_itemsDepth hmem)
  · exact Nat.lt_succ_of_le (depth_le_fieldsDepth hmem)

namespace Reading
variable {α β σ : Type} {r : Reading α} {v w : Value} {slots : List (Slot σ)} {s start : σ}
  {items : List Value} {entries : List (String × Value)} {seen : List String}

/-- Something is read from a value. -/
def Accepts (r : Reading α) (v : Value) : Prop := ∃ x, r.ofValue v = .ok x

/-! ## Single values, lists and optional parts -/

theorem accepts_map {f : α → β} : (r.map f).Accepts v ↔ r.Accepts v := by
  constructor
  · rintro ⟨_, h⟩
    obtain ⟨x, hx, -⟩ := map_eq_ok_iff.mp h
    exact ⟨x, hx⟩
  · rintro ⟨x, hx⟩
    exact ⟨f x, map_eq_ok_iff.mpr ⟨x, hx, rfl⟩⟩

theorem accepts_any (v : Value) : any.Accepts v := ⟨v, rfl⟩

theorem accepts_text : text.Accepts v ↔ ∃ t, v = .string t := by
  cases v <;> simp [Accepts, text, converted]

theorem accepts_flag : flag.Accepts v ↔ ∃ b, v = .bool b := by
  cases v <;> simp [Accepts, flag]

theorem accepts_nullable : r.nullable.Accepts v ↔ v = .null ∨ r.Accepts v := by
  by_cases hv : v = .null
  · simp [Accepts, ofValue_nullable_eq_ok_iff, hv]
  · simp [Accepts, ofValue_nullable_eq_ok_iff, hv]

/-- If there is a result for each of several elements, there is a list of results. -/
theorem exists_forall₂ {R : α → β → Prop} {xs : List α} (h : ∀ x ∈ xs, ∃ y, R x y) :
    ∃ ys, List.Forall₂ R xs ys := by
  induction xs with
  | nil => exact ⟨[], .nil⟩
  | cons x xs ih =>
    obtain ⟨⟨y, hy⟩, hothers⟩ := List.forall_mem_cons.mp h
    obtain ⟨ys, hys⟩ := ih hothers
    exact ⟨y :: ys, .cons hy hys⟩

theorem accepts_list :
    (Reading.list r).Accepts v ↔ ∃ items, v = .array items ∧ ∀ w ∈ items, r.Accepts w := by
  constructor
  · rintro ⟨xs, hxs⟩
    obtain ⟨items, rfl, hitems⟩ := ofValue_list_eq_ok_iff.mp hxs
    refine ⟨items, rfl, fun w hw => ?_⟩
    obtain ⟨i, hi, rfl⟩ := List.mem_iff_getElem.mp hw
    exact ⟨_, hitems.get hi (hitems.length_eq ▸ hi)⟩
  · rintro ⟨items, rfl, hitems⟩
    obtain ⟨xs, hxs⟩ := exists_forall₂ hitems
    exact ⟨xs, ofValue_list_eq_ok_iff.mpr ⟨items, rfl, hxs⟩⟩

/-! ## Records -/

/-- The elements of an array fill the slots if there are not too many and each is accepted by the
slot at its place. -/
theorem exists_fillInOrder_iff {record : String} {total index : Nat}
    (hoptional : ∀ slot ∈ slots, slot.required = false) (hnames : (slots.map Slot.name).Nodup) :
    (∃ s', fillInOrder record total slots index items s = .ok (s', [])) ↔
      items.length ≤ slots.length ∧ ∀ slot ∈ slots, ∀ w,
        items[(slots.map Slot.name).idxOf slot.name]? = some w → slot.reading.Accepts w := by
  induction slots generalizing index items s with
  | nil => cases items <;> simp [fillInOrder]
  | cons slot slots ih =>
    obtain ⟨hslot, hoptional⟩ := List.forall_mem_cons.mp hoptional
    obtain ⟨hnot, hnames⟩ := List.nodup_cons.mp hnames
    -- the other slots have other names, so they are filled from the elements after the first
    have hplace : ∀ t ∈ slots, ((slot :: slots).map Slot.name).idxOf t.name =
        (slots.map Slot.name).idxOf t.name + 1 := by
      intro t ht
      refine List.idxOf_cons_ne _ fun heq => hnot ?_
      exact heq ▸ List.mem_map.mpr ⟨t, ht, rfl⟩
    rw [List.forall_mem_cons, List.map_cons, List.idxOf_cons_self, ← List.map_cons]
    cases items with
    | nil => simp [fillInOrder, hslot, ih hoptional hnames]
    | cons v items =>
      have hothers : (∀ t ∈ slots, ∀ w,
          (v :: items)[((slot :: slots).map Slot.name).idxOf t.name]? = some w →
            t.reading.Accepts w) ↔
          ∀ t ∈ slots, ∀ w, items[(slots.map Slot.name).idxOf t.name]? = some w →
            t.reading.Accepts w := by
        refine forall₂_congr fun t ht => ?_
        rw [hplace t ht, List.getElem?_cons_succ]
      simp only [hothers, List.length_cons, Nat.add_le_add_iff_right, List.getElem?_cons_zero,
        Option.some.injEq, forall_eq', fillInOrder, bind_eq_ok_iff]
      constructor
      · rintro ⟨s', change, hchange, h⟩
        obtain ⟨hlength, hrest⟩ := (ih hoptional hnames).mp ⟨s', h⟩
        exact ⟨hlength, ⟨change, hchange⟩, hrest⟩
      · rintro ⟨hlength, ⟨change, hchange⟩, hrest⟩
        obtain ⟨s', h⟩ := (ih hoptional hnames).mpr ⟨hlength, hrest⟩
        exact ⟨s', change, hchange, h⟩

/-- The entries of an object fill the slots if each is accepted by the slot of its name. -/
theorem exists_fillByName_iff (hnodup : (Fields.keys entries).Nodup)
    (hnew : ∀ key ∈ Fields.keys entries, key ∉ seen) :
    (∃ s' seen', fillByName slots entries seen s = .ok (s', seen')) ↔
      ∀ e ∈ entries, ∀ slot, (slots.find? fun slot => slot.name == e.1) = some slot →
        slot.reading.Accepts e.2 := by
  induction entries generalizing seen s with
  | nil => simp [fillByName]
  | cons e rest ih =>
    obtain ⟨key, v⟩ := e
    obtain ⟨hnot, hrest⟩ := List.nodup_cons.mp hnodup
    obtain ⟨hkey, hothers⟩ := List.forall_mem_cons.mp hnew
    rw [List.forall_mem_cons, fillByName]
    cases hslot : slots.find? fun slot => slot.name == key with
    | none => simpa using ih hrest hothers
    | some slot =>
      -- no key comes twice, so what has been seen never stands in the way
      have hfresh : ¬ seen.contains key = true := fun h => hkey (List.contains_iff_mem.mp h)
      have hnew' : ∀ k ∈ Fields.keys rest, k ∉ key :: seen := by
        intro k hk hmem
        rcases List.mem_cons.mp hmem with rfl | hmem
        · exact hnot hk
        · exact hothers k hk hmem
      simp only [if_neg hfresh, bind_eq_ok_iff, Option.some.injEq, forall_eq']
      constructor
      · rintro ⟨s', seen', change, hchange, h⟩
        exact ⟨⟨change, hchange⟩, (ih hrest hnew').mp ⟨s', seen', h⟩⟩
      · rintro ⟨⟨change, hchange⟩, h⟩
        obtain ⟨s', seen', h⟩ := (ih hrest hnew').mpr h
        exact ⟨s', seen', change, hchange, h⟩

/-- Of slots with different names, the one that is found under a name is the one that has it. -/
theorem find?_name_eq_some_iff {slot : Slot σ} {key : String}
    (hnames : (slots.map Slot.name).Nodup) :
    (slots.find? fun slot => slot.name == key) = some slot ↔ slot ∈ slots ∧ slot.name = key := by
  refine ⟨find?_eq_some, ?_⟩
  rintro ⟨hmem, rfl⟩
  cases hfound : slots.find? fun t => t.name == slot.name with
  | none => exact absurd (beq_iff_eq.mpr rfl) (List.find?_eq_none.mp hfound slot hmem)
  | some t =>
    obtain ⟨ht, hname⟩ := find?_eq_some hfound
    rw [List.inj_on_of_nodup_map hnames ht hmem hname]

/-- **What a record accepts**, if none of its fields has to be given. -/
theorem accepts_record_iff {record : String} (hoptional : ∀ slot ∈ slots, slot.required = false)
    (hnames : (slots.map Slot.name).Nodup) (hv : v.Ordered) :
    (Reading.record record slots start).Accepts v ↔ v.IsRecord slots.length ∧
      ∀ slot ∈ slots, ∀ w, v.field? (slots.map Slot.name) slot.name = some w →
        slot.reading.Accepts w := by
  cases v with
  | array items =>
    simp only [Accepts, ofValue_array_eq_ok_iff]
    exact exists_fillInOrder_iff hoptional hnames
  | object entries =>
    have hnodup := (Value.ordered_object_iff.mp hv).1.nodup
    -- no field has to be given, so none is missing in the end
    have hcomplete : ∀ seen, missing? slots seen = none := by
      intro seen
      refine missing?_eq_none_iff.mpr fun slot hslot hrequired => ?_
      rw [hoptional slot hslot] at hrequired
      cases hrequired
    calc (Reading.record record slots start).Accepts (.object entries)
        ↔ ∃ s seen, fillByName slots entries [] start = .ok (s, seen) := by
          simp only [Accepts, ofValue_object_eq_ok_iff, hcomplete, and_true]
      _ ↔ ∀ e ∈ entries, ∀ slot, (slots.find? fun slot => slot.name == e.1) = some slot →
            slot.reading.Accepts e.2 :=
          exists_fillByName_iff hnodup fun _ _ => List.not_mem_nil
      _ ↔ ∀ slot ∈ slots, ∀ w, (slot.name, w) ∈ entries → slot.reading.Accepts w := by
          simp only [find?_name_eq_some_iff hnames]
          constructor
          · intro h slot hslot w hw
            exact h (slot.name, w) hw slot ⟨hslot, rfl⟩
          · rintro h ⟨_, w⟩ hw slot ⟨hslot, rfl⟩
            exact h slot hslot w hw
      _ ↔ (Value.object entries).IsRecord slots.length ∧ ∀ slot ∈ slots, ∀ w,
            (Value.object entries).field? (slots.map Slot.name) slot.name = some w →
              slot.reading.Accepts w := by
          simp only [Value.IsRecord, Value.field?, Fields.get?_eq_some_iff hnodup, true_and]
  | null => simp [Accepts, Reading.record, Value.IsRecord]
  | bool b => simp [Accepts, Reading.record, Value.IsRecord]
  | number n => simp [Accepts, Reading.record, Value.IsRecord]
  | string t => simp [Accepts, Reading.record, Value.IsRecord]

/-- The same by names: whatever a record has under a name is as it has to be there, and under
other names it may have anything. -/
theorem accepts_record_iff_fields {record : String} {F : String → Value → Prop}
    (hoptional : ∀ slot ∈ slots, slot.required = false) (hnames : (slots.map Slot.name).Nodup)
    (hv : v.Ordered)
    (hslots : ∀ slot ∈ slots, ∀ w, v.field? (slots.map Slot.name) slot.name = some w →
      (slot.reading.Accepts w ↔ F slot.name w))
    (hothers : ∀ name ∉ slots.map Slot.name, ∀ w, F name w) :
    (Reading.record record slots start).Accepts v ↔ v.IsRecord slots.length ∧
      ∀ name w, v.field? (slots.map Slot.name) name = some w → F name w := by
  rw [accepts_record_iff hoptional hnames hv]
  refine and_congr_right fun _ => ⟨fun h name w hw => ?_, fun h slot hslot w hw => ?_⟩
  · by_cases hname : name ∈ slots.map Slot.name
    · obtain ⟨slot, hslot, rfl⟩ := List.mem_map.mp hname
      exact (hslots slot hslot w hw).mp (h slot hslot w hw)
    · exact hothers name hname w
  · exact (hslots slot hslot w hw).mpr (h slot.name w hw)

end Reading

end IntentSelect.Json
