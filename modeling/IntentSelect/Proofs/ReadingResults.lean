import IntentSelect.Proofs.RecordParts

/-! # What is true of whatever is read

A reading ensures a property if everything that it reads has it, from a value and from a text
alike (`Reading.Ensures`).  Of the values something may be supposed that passes on to their parts
(`Value.Hereditary`).  There is one lemma for each way of putting readings together.  For a
record it asks what every slot keeps (`Ensures.record`), so a property of records needs no
knowledge of how they are written, nor of the order in which their fields are read.
-/
namespace IntentSelect.Json

/-- A property of values that passes on to their parts. -/
structure Value.Hereditary (V : Value → Prop) : Prop where
  array : ∀ {items}, V (.array items) → ∀ v ∈ items, V v
  object : ∀ {fields}, V (.object fields) → ∀ e ∈ fields, V e.2

theorem Value.hereditary_true : Value.Hereditary fun _ => True :=
  ⟨fun _ _ _ => .intro, fun _ _ _ => .intro⟩

namespace Reading
variable {α β σ : Type} {V : Value → Prop} {r : Reading α} {P : α → Prop} {cs rest : List Char}

/-- Everything that is read has a property, if it is read from a text or from a value as
supposed. -/
structure Ensures (V : Value → Prop) (r : Reading α) (P : α → Prop) : Prop where
  ofValue : ∀ {v x}, V v → r.ofValue v = .ok x → P x
  ofText : ∀ {depth cs x rest}, r.ofText depth cs = .ok (x, rest) → P x

theorem toEnd_eq_ok_iff {text : List Char} {x : α} : r.toEnd text = .ok x ↔
    ∃ rest, r.ofText depthLimit text = .ok (x, rest) ∧ skipSpace rest = [] := by
  unfold toEnd
  rw [bind_eq_ok_iff, Prod.exists]
  simp only
  constructor
  · rintro ⟨y, rest, hy, hx⟩
    split at hx
    · next hrest =>
      cases hx
      exact ⟨rest, hy, hrest⟩
    · cases hx
  · rintro ⟨rest, hx, hrest⟩
    exact ⟨x, rest, hx, by rw [hrest]; rfl⟩

namespace Ensures

theorem trivial (r : Reading α) : Ensures V r fun _ => True :=
  ⟨fun _ _ => .intro, fun _ => .intro⟩

/-- What needs nothing to be supposed of values is true whatever is supposed. -/
theorem of_true (h : Ensures (fun _ => True) r P) : Ensures V r P :=
  ⟨fun _ hx => h.ofValue .intro hx, h.ofText⟩

theorem map {Q : β → Prop} {f : α → β} (h : Ensures V r P) (hf : ∀ x, P x → Q (f x)) :
    Ensures V (r.map f) Q where
  ofValue hv hx := by
    obtain ⟨y, hy, rfl⟩ := map_eq_ok_iff.mp hx
    exact hf y (h.ofValue hv hy)
  ofText hx := by
    obtain ⟨⟨y, rest⟩, hy, heq⟩ := map_eq_ok_iff.mp hx
    cases heq
    exact hf y (h.ofText hy)

/-- A text that is read is one that can be converted. -/
theorem converted {expected : String} {convert : String → Except Cause α}
    (h : ∀ {s x}, convert s = .ok x → P x) : Ensures V (Reading.converted expected convert) P where
  ofValue {v _} _ hx := by
    cases v with
    | string s => exact h hx
    | null => cases hx
    | bool b => cases hx
    | number n => cases hx
    | array items => cases hx
    | object fields => cases hx
  ofText hx := by
    unfold Reading.converted at hx
    simp only at hx
    split at hx
    · obtain ⟨⟨s, rest⟩, -, hx⟩ := bind_eq_ok_iff.mp hx
      obtain ⟨y, hy, heq⟩ := bind_eq_ok_iff.mp hx
      cases heq
      exact h (mapError_eq_ok_iff.mp hy)
    · cases hx

/-- A slot that does not matter for a property. -/
theorem keeps {Q : σ → Prop} {set : α → σ → σ} (h : ∀ x s, Q s → Q (set x s)) :
    Ensures V (r.map set) fun change => ∀ s, Q s → Q (change s) :=
  (trivial r).map fun x _ => h x

theorem nullable (h : Ensures V r P) : Ensures V r.nullable fun x => ∀ y, x = some y → P y where
  ofValue hv hx := by
    rcases ofValue_nullable_eq_ok_iff.mp hx with ⟨-, rfl⟩ | ⟨-, y, hy, rfl⟩
    · exact nofun
    · rintro _ ⟨⟩
      exact h.ofValue hv hy
  ofText hx := by
    unfold Reading.nullable at hx
    simp only at hx
    split at hx
    · obtain ⟨rest, -, heq⟩ := map_eq_ok_iff.mp hx
      cases heq
      exact nofun
    · obtain ⟨⟨y, rest⟩, hy, heq⟩ := map_eq_ok_iff.mp hx
      cases heq
      rintro _ ⟨⟩
      exact h.ofText hy

/-! ## Lists -/

theorem of_scanItemsWithin {element : List Char → Except Fault (α × List Char)}
    (h : ∀ {cs x rest}, element cs = .ok (x, rest) → P x) {bound : Nat} {first : Bool}
    {xs : List α} (hxs : scanItemsWithin element bound first cs = .ok (xs, rest)) :
    ∀ x ∈ xs, P x := by
  induction bound generalizing first cs xs rest with
  | zero => cases hxs
  | succ bound ih =>
    obtain ⟨round, -, hxs⟩ := bind_eq_ok_iff.mp hxs
    cases round with
    | done rest =>
      cases hxs
      exact nofun
    | more cs =>
      obtain ⟨⟨x, cs⟩, hx, hxs⟩ := bind_eq_ok_iff.mp hxs
      obtain ⟨⟨ys, rest⟩, hys, heq⟩ := bind_eq_ok_iff.mp hxs
      cases heq
      exact List.forall_mem_cons.mpr ⟨h hx, ih hys⟩

theorem list (hV : Value.Hereditary V) (h : Ensures V r P) :
    Ensures V (Reading.list r) fun xs => ∀ x ∈ xs, P x where
  ofValue hv hx := by
    obtain ⟨items, rfl, hitems⟩ := ofValue_list_eq_ok_iff.mp hx
    have hitem := hV.array hv
    clear hv hx
    induction hitems with
    | nil => exact nofun
    | cons hread _ ih =>
      obtain ⟨hfirst, hothers⟩ := List.forall_mem_cons.mp hitem
      exact List.forall_mem_cons.mpr ⟨h.ofValue hfirst hread, ih hothers⟩
  ofText hx := by
    unfold Reading.list at hx
    simp only at hx
    split at hx
    · split at hx
      · cases hx
      · exact of_scanItemsWithin h.ofText hx
    · cases hx

/-! ## Records -/

section Record
variable {slots : List (Slot σ)} {Q : σ → Prop} {seen seen' : List String} {s s' start : σ}
  {entries : List (String × Value)} {items left : List Value} {depth : Nat}

/-- Every change that slots read keeps a property. -/
def Kept (V : Value → Prop) (slots : List (Slot σ)) (Q : σ → Prop) : Prop :=
  ∀ slot ∈ slots, Ensures V slot.reading fun change => ∀ s, Q s → Q (change s)

theorem of_fillByName (hslots : Kept V slots Q) (hentries : ∀ e ∈ entries, V e.2) (hs : Q s)
    (h : fillByName slots entries seen s = .ok (s', seen')) : Q s' := by
  induction entries generalizing seen s with
  | nil =>
    cases h
    exact hs
  | cons e rest ih =>
    obtain ⟨key, v⟩ := e
    obtain ⟨hv, hentries⟩ := List.forall_mem_cons.mp hentries
    rw [fillByName] at h
    split at h
    · exact ih hentries hs h
    · next slot hslot =>
      split at h
      · cases h
      · obtain ⟨change, hchange, h⟩ := bind_eq_ok_iff.mp h
        exact ih hentries ((hslots slot (find?_eq_some hslot).1).ofValue hv hchange s hs) h

theorem of_fillInOrder {name : String} {total index : Nat} (hslots : Kept V slots Q)
    (hitems : ∀ v ∈ items, V v) (hs : Q s)
    (h : fillInOrder name total slots index items s = .ok (s', left)) : Q s' := by
  induction slots generalizing index items s with
  | nil =>
    cases h
    exact hs
  | cons slot slots ih =>
    obtain ⟨hslot, hslots⟩ := List.forall_mem_cons.mp hslots
    cases items with
    | nil =>
      rw [fillInOrder] at h
      split at h
      · cases h
      · exact ih hslots hitems hs h
    | cons v items =>
      obtain ⟨hv, hitems⟩ := List.forall_mem_cons.mp hitems
      obtain ⟨change, hchange, h⟩ := bind_eq_ok_iff.mp h
      exact ih hslots hitems (hslot.ofValue hv hchange s hs) h

theorem of_scanInOrder {name : String} {total index : Nat} {first : Bool} (hslots : Kept V slots Q)
    (hs : Q s) (h : scanInOrder name total depth slots index first s cs = .ok (s', rest)) :
    Q s' := by
  induction slots generalizing index first s cs with
  | nil =>
    obtain ⟨_, -, heq⟩ := map_eq_ok_iff.mp h
    cases heq
    exact hs
  | cons slot slots ih =>
    obtain ⟨hslot, hslots'⟩ := List.forall_mem_cons.mp hslots
    obtain ⟨round, -, h⟩ := bind_eq_ok_iff.mp h
    cases round with
    | done rest =>
      simp only at h
      split at h
      · cases h
      · cases h
        exact hs
    | more cs =>
      obtain ⟨⟨change, cs⟩, hchange, h⟩ := bind_eq_ok_iff.mp h
      exact ih hslots' (hslot.ofText hchange s hs) h

theorem of_scanField {key : String} {state state' : σ × List String} (hslots : Kept V slots Q)
    (hs : Q state.1) (h : scanField slots depth state key cs = .ok (state', rest)) :
    Q state'.1 := by
  unfold scanField at h
  split at h
  · obtain ⟨_, -, h⟩ := bind_eq_ok_iff.mp h
    obtain ⟨_, -, h⟩ := bind_eq_ok_iff.mp h
    cases h
    exact hs
  · next slot hslot =>
    split at h
    · cases h
    · obtain ⟨_, -, h⟩ := bind_eq_ok_iff.mp h
      obtain ⟨⟨change, _⟩, hchange, h⟩ := bind_eq_ok_iff.mp h
      cases h
      exact (hslots slot (find?_eq_some hslot).1).ofText hchange _ hs

/-- What every entry keeps is kept by all of them. -/
theorem of_scanEntriesWithin {τ : Type} {I : τ → Prop} {t t' : τ}
    {entry : τ → String → List Char → Except Fault (τ × List Char)}
    (hentry : ∀ {t key cs t' rest}, I t → entry t key cs = .ok (t', rest) → I t')
    {bound : Nat} {first : Bool} (ht : I t)
    (h : scanEntriesWithin entry bound first t cs = .ok (t', rest)) : I t' := by
  induction bound generalizing first t cs with
  | zero => cases h
  | succ bound ih =>
    obtain ⟨round, -, h⟩ := bind_eq_ok_iff.mp h
    cases round with
    | done rest =>
      cases h
      exact ht
    | more cs =>
      obtain ⟨⟨key, cs⟩, -, h⟩ := bind_eq_ok_iff.mp h
      obtain ⟨⟨u, cs⟩, hu, h⟩ := bind_eq_ok_iff.mp h
      exact ih (hentry ht hu) h

/-- **A record has what its start has and every slot keeps.** -/
theorem record (hV : Value.Hereditary V) {name : String} (hslots : Kept V slots Q)
    (hstart : Q start) : Ensures V (Reading.record name slots start) Q where
  ofValue {v x} hv hx := by
    cases v with
    | array items =>
      exact of_fillInOrder hslots (hV.array hv) hstart (ofValue_array_eq_ok_iff.mp hx)
    | object entries =>
      obtain ⟨seen, hfill, -⟩ := ofValue_object_eq_ok_iff.mp hx
      exact of_fillByName hslots (hV.object hv) hstart hfill
    | null => cases hx
    | bool b => cases hx
    | number n => cases hx
    | string t => cases hx
  ofText hx := by
    unfold Reading.record at hx
    simp only at hx
    split at hx
    · cases hx
    · split at hx
      · split at hx
        · cases hx
        · exact of_scanInOrder hslots hstart hx
      · split at hx
        · split at hx
          · cases hx
          · obtain ⟨⟨⟨s, seen⟩, rest⟩, hscan, hx⟩ := bind_eq_ok_iff.mp hx
            have hs : Q s := of_scanEntriesWithin (I := fun state => Q state.1)
              (of_scanField hslots) hstart hscan
            simp only at hx
            split at hx
            · cases hx
              exact hs
            · cases hx
        · cases hx

end Record

end Ensures

end Reading

end IntentSelect.Json
