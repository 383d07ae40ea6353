import IntentSelect.Json.Reading
import IntentSelect.Proofs.KeyOrder
import IntentSelect.Proofs.Successes

/-! # The parts of a record

A record is written as an object or as an array, and read by folding over what is written.
Each of its parts has one slot of its own, so the other fields do not matter for it
(`Owns`): a part is what its own reading makes of the field that belongs to it, or what it
was at the start if that field is not given (`part_of_record`).  Which field that is depends
on the form: in an object it goes by name, in an array by place (`field?`).
-/
namespace IntentSelect.Json

/-- The field of a written record: by name in an object, and by place in an array, where the
fields stand in the order of `names`. -/
def Value.field? (names : List String) (name : String) : Value → Option Value
  | .object entries => Fields.get? name entries
  | .array items => items[names.idxOf name]?
  | _ => none

/-- Only arrays and objects have fields, and a field is one of their parts. -/
theorem Value.part_of_field? {v w : Value} {names : List String} {name : String}
    (h : v.field? names name = some w) :
    (∃ items, v = .array items ∧ w ∈ items) ∨
      ∃ entries, v = .object entries ∧ (name, w) ∈ entries := by
  cases v with
  | array items => exact .inl ⟨items, rfl, List.mem_of_getElem? h⟩
  | object entries => exact .inr ⟨entries, rfl, Fields.mem_of_get?_eq_some h⟩
  | null => cases h
  | bool b => cases h
  | number n => cases h
  | string s => cases h

namespace Slot
variable {α β σ : Type} {slot : Slot σ} {r : Reading β} {part : σ → β}

/-- The slot makes a part what `r` reads. -/
def Fills (slot : Slot σ) (r : Reading β) (part : σ → β) : Prop :=
  ∀ v change, slot.reading.ofValue v = .ok change → ∀ s, r.ofValue v = .ok (part (change s))

/-- The slot leaves a part alone. -/
def Keeps (slot : Slot σ) (part : σ → β) : Prop :=
  ∀ v change, slot.reading.ofValue v = .ok change → ∀ s, part (change s) = part s

theorem fills_of_set {name : String} {required : Bool} {r : Reading α} {set : α → σ → σ}
    {part : σ → β} {f : α → β} (h : ∀ x s, part (set x s) = f x) :
    Fills ⟨name, required, r.map set⟩ (r.map f) part := by
  intro v change hchange s
  obtain ⟨x, hx, rfl⟩ := map_eq_ok_iff.mp hchange
  exact map_eq_ok_iff.mpr ⟨x, hx, (h x s).symm⟩

theorem keeps_of_set {name : String} {required : Bool} {r : Reading α} {set : α → σ → σ}
    {part : σ → β} (h : ∀ x s, part (set x s) = part s) :
    Keeps ⟨name, required, r.map set⟩ part := by
  intro v change hchange s
  obtain ⟨x, -, rfl⟩ := map_eq_ok_iff.mp hchange
  exact h x s

end Slot

namespace Reading
variable {α β σ : Type} {slots : List (Slot σ)} {name : String} {r : Reading β} {part : σ → β}
  {entries : List (String × Value)} {items left : List Value} {seen seen' : List String}
  {s s' start : σ} {v : Value}

/-- Of the slots, the one with the given name makes a part what `r` reads, and the others leave
the part alone. -/
structure Owns (slots : List (Slot σ)) (name : String) (r : Reading β) (part : σ → β) : Prop where
  mem : name ∈ slots.map Slot.name
  fills : ∀ slot ∈ slots, slot.name = name → slot.Fills r part
  keeps : ∀ slot ∈ slots, slot.name ≠ name → slot.Keeps part

/-- What comes of a field for the part that it belongs to, which is `default` before. -/
def Read (r : Reading β) (field? : Option Value) (default x : β) : Prop :=
  match field? with
  | none => x = default
  | some v => r.ofValue v = .ok x

theorem find?_eq_some {slot : Slot σ} {key : String}
    (h : (slots.find? fun slot => slot.name == key) = some slot) :
    slot ∈ slots ∧ slot.name = key := by
  refine ⟨List.mem_of_find?_eq_some h, ?_⟩
  have hname := List.find?_some h
  exact eq_of_beq hname

/-! ## When simple readings succeed -/

theorem decode_eq_ok_iff {r : Reading α} {x : α} : r.decode v = .ok x ↔ r.ofValue v = .ok x := by
  unfold Reading.decode
  exact mapError_eq_ok_iff

theorem ofValue_nullable_eq_ok_iff {r : Reading α} {x : Option α} :
    (nullable r).ofValue v = .ok x ↔
      v = .null ∧ none = x ∨ v ≠ .null ∧ ∃ y, r.ofValue v = .ok y ∧ some y = x := by
  cases v <;> simp [nullable, map_eq_ok_iff]

theorem ofValue_list_eq_ok_iff {r : Reading α} {xs : List α} :
    (Reading.list r).ofValue v = .ok xs ↔
      ∃ items, v = .array items ∧ List.Forall₂ (fun w x => r.ofValue w = .ok x) items xs := by
  cases v <;> simp [Reading.list, mapM_eq_ok_iff]

theorem missing?_eq_none_iff :
    missing? slots seen = none ↔ ∀ slot ∈ slots, slot.required = true → slot.name ∈ seen := by
  simp [missing?]

/-! ## Objects -/

/-- A key that has been seen does not come again. -/
theorem part_of_fillByName_of_seen (howns : Owns slots name r part) (hseen : name ∈ seen)
    (h : fillByName slots entries seen s = .ok (s', seen')) : part s' = part s := by
  induction entries generalizing seen s with
  | nil =>
    cases h
    rfl
  | cons e rest ih =>
    obtain ⟨key, v⟩ := e
    rw [fillByName] at h
    split at h
    · exact ih hseen h
    · next slot hslot =>
      obtain ⟨hmem, hkey⟩ := find?_eq_some hslot
      split at h
      · cases h
      · next hnew =>
        obtain ⟨change, hchange, h⟩ := bind_eq_ok_iff.mp h
        have hne : slot.name ≠ name := by
          rintro rfl
          exact hnew (List.contains_iff_mem.mpr (hkey ▸ hseen))
        rw [ih (List.mem_cons_of_mem _ hseen) h, howns.keeps slot hmem hne v change hchange]

theorem part_of_fillByName (howns : Owns slots name r part) (hseen : name ∉ seen)
    (h : fillByName slots entries seen s = .ok (s', seen')) :
    Read r (Fields.get? name entries) (part s) (part s') := by
  induction entries generalizing seen s with
  | nil =>
    cases h
    rfl
  | cons e rest ih =>
    obtain ⟨key, v⟩ := e
    rw [fillByName] at h
    split at h
    · next hslot =>
      -- the key is not that of a slot, and so not the one that is looked for
      have hne : key ≠ name := by
        rintro rfl
        obtain ⟨slot, hmem, hname⟩ := List.mem_map.mp howns.mem
        exact List.find?_eq_none.mp hslot slot hmem (beq_iff_eq.mpr hname)
      rw [Fields.get?, if_neg hne]
      exact ih hseen h
    · next slot hslot =>
      obtain ⟨hmem, rfl⟩ := find?_eq_some hslot
      split at h
      · cases h
      · obtain ⟨change, hchange, h⟩ := bind_eq_ok_iff.mp h
        rw [Fields.get?]
        by_cases hname : slot.name = name
        · rw [if_pos hname, Read]
          rw [part_of_fillByName_of_seen howns (hname ▸ List.mem_cons_self) h]
          exact howns.fills slot hmem hname v change hchange s
        · rw [if_neg hname, ← howns.keeps slot hmem hname v change hchange s]
          refine ih (fun hmem => ?_) h
          exact (List.mem_cons.mp hmem).elim (Ne.symm hname) hseen

/-! ## Arrays -/

/-- Slots with other names leave a part alone. -/
theorem part_of_fillInOrder_of_keeps {total index : Nat} {record : String}
    (hkeeps : ∀ slot ∈ slots, slot.Keeps part)
    (h : fillInOrder record total slots index items s = .ok (s', left)) : part s' = part s := by
  induction slots generalizing index items s with
  | nil =>
    cases h
    rfl
  | cons slot slots ih =>
    obtain ⟨hslot, hslots⟩ := List.forall_mem_cons.mp hkeeps
    cases items with
    | nil =>
      rw [fillInOrder] at h
      split at h
      · cases h
      · exact ih hslots h
    | cons v items =>
      obtain ⟨change, hchange, h⟩ := bind_eq_ok_iff.mp h
      rw [ih hslots h, hslot v change hchange]

theorem part_of_fillInOrder {total index : Nat} {record : String}
    (howns : Owns slots name r part) (hnodup : (slots.map Slot.name).Nodup)
    (h : fillInOrder record total slots index items s = .ok (s', left)) :
    Read r items[(slots.map Slot.name).idxOf name]? (part s) (part s') := by
  induction slots generalizing index items s with
  | nil => exact absurd howns.mem List.not_mem_nil
  | cons slot slots ih =>
    obtain ⟨hnot, hrest⟩ := List.nodup_cons.mp hnodup
    obtain ⟨hfill, -⟩ := List.forall_mem_cons.mp howns.fills
    obtain ⟨hkeep, hkeeps⟩ := List.forall_mem_cons.mp howns.keeps
    by_cases hname : slot.name = name
    · -- this is the slot of the part, and the other slots have other names
      have hothers : ∀ t ∈ slots, t.Keeps part := fun t ht =>
        hkeeps t ht fun h => hnot (hname ▸ h ▸ List.mem_map.mpr ⟨t, ht, rfl⟩)
      rw [List.map_cons, hname, List.idxOf_cons_self]
      cases items with
      | nil =>
        rw [fillInOrder] at h
        split at h
        · cases h
        · exact part_of_fillInOrder_of_keeps hothers h
      | cons v items =>
        obtain ⟨change, hchange, h⟩ := bind_eq_ok_iff.mp h
        rw [part_of_fillInOrder_of_keeps hothers h]
        exact hfill hname v change hchange s
    · have howns' : Owns slots name r part := by
        refine ⟨?_, fun t ht => ?_, hkeeps⟩
        · exact (List.mem_cons.mp howns.mem).resolve_left (Ne.symm hname)
        · exact howns.fills t (List.mem_cons_of_mem _ ht)
      rw [List.map_cons, List.idxOf_cons_ne _ hname]
      cases items with
      | nil =>
        rw [fillInOrder] at h
        split at h
        · cases h
        · exact ih howns' hrest h
      | cons v items =>
        obtain ⟨change, hchange, h⟩ := bind_eq_ok_iff.mp h
        rw [← hkeep hname v change hchange s]
        exact ih howns' hrest h

/-! ## Both forms -/

/-- A record is read from an array if the elements are used up by the slots. -/
theorem ofValue_array_eq_ok_iff {record : String} :
    (Reading.record record slots start).ofValue (.array items) = .ok s ↔
      fillInOrder record slots.length slots 0 items start = .ok (s, []) := by
  simp only [Reading.record]
  cases fillInOrder record slots.length slots 0 items start with
  | error cause => simp [bind, Except.bind]
  | ok filled =>
    obtain ⟨s', _ | ⟨v, left⟩⟩ := filled <;> simp [bind, Except.bind, pure, Except.pure]

/-- A record is read from an object if no field is missing that has to be given. -/
theorem ofValue_object_eq_ok_iff {record : String} :
    (Reading.record record slots start).ofValue (.object entries) = .ok s ↔
      ∃ seen, fillByName slots entries [] start = .ok (s, seen) ∧ missing? slots seen = none := by
  simp only [Reading.record]
  cases fillByName slots entries [] start with
  | error cause => simp [bind, Except.bind]
  | ok filled =>
    obtain ⟨s', seen⟩ := filled
    cases hmissing : missing? slots seen <;>
      simp +contextual [bind, Except.bind, pure, Except.pure, hmissing]

/-- **The parts of a record.**  A part is what its reading makes of its field, or what it was at
the start if the field is not given, whichever way the record is written. -/
theorem part_of_record {record : String} (howns : Owns slots name r part)
    (hnodup : (slots.map Slot.name).Nodup)
    (h : (Reading.record record slots start).ofValue v = .ok s) :
    Read r (v.field? (slots.map Slot.name) name) (part start) (part s) := by
  cases v with
  | array items => exact part_of_fillInOrder howns hnodup (ofValue_array_eq_ok_iff.mp h)
  | object entries =>
    obtain ⟨seen, hfill, -⟩ := ofValue_object_eq_ok_iff.mp h
    exact part_of_fillByName howns List.not_mem_nil hfill
  | null => cases h
  | bool b => cases h
  | number n => cases h
  | string t => cases h

end Reading

end IntentSelect.Json
