import IntentSelect.Json.Value
import Mathlib.Data.List.Nodup

/-! # Fields in the order of their keys

Fields stand for a map if their keys ascend (`Fields.Ascending`), which leaves no room for a
key to occur twice.  Setting a key keeps that, whatever was there before (`ascending_put`), so
fields that have been put together key by key are always in order (`ascending_ofList`).

In such fields a look-up finds what is there (`get?_eq_some_iff`), the look-ups determine the
fields (`Ascending.eq_of_get?_eq`), and putting fields together whose keys differ only changes
their order (`ofList_perm`).
-/
namespace IntentSelect.Json.Fields
variable {α β : Type} {fields fields' entries : List (String × α)} {key k : String} {v w : α}

/-! ## Keys -/

/-- The keys of fields, as they stand. -/
def keys (fields : List (String × α)) : List String := fields.map Prod.fst

/-- The keys ascend. -/
def Ascending (fields : List (String × α)) : Prop := (keys fields).Pairwise (· < ·)

@[simp] theorem keys_nil : keys ([] : List (String × α)) = [] := rfl

@[simp] theorem keys_cons (e : String × α) : keys (e :: fields) = e.1 :: keys fields := rfl

@[simp] theorem keys_append : keys (fields ++ fields') = keys fields ++ keys fields' :=
  List.map_append

theorem mem_keys_of_mem (h : (k, v) ∈ fields) : k ∈ keys fields :=
  List.mem_map.mpr ⟨(k, v), h, rfl⟩

theorem Ascending.nodup (h : Ascending fields) : (keys fields).Nodup := by
  refine List.Pairwise.imp ?_ h
  rintro a b hlt rfl
  exact String.lt_irrefl a hlt

theorem ascending_nil : Ascending ([] : List (String × α)) := List.Pairwise.nil

theorem ascending_cons {e : String × α} :
    Ascending (e :: fields) ↔ (∀ k ∈ keys fields, e.1 < k) ∧ Ascending fields :=
  List.pairwise_cons

/-! ## Look-ups -/

theorem get?_eq_none_iff : get? k fields = none ↔ k ∉ keys fields := by
  induction fields with
  | nil => simp [get?]
  | cons e rest ih =>
    by_cases h : e.1 = k
    · simp [get?, h]
    · simp [get?, h, ih, Ne.symm h]

theorem isSome_get?_iff : (get? k fields).isSome = true ↔ k ∈ keys fields := by
  rw [Option.isSome_iff_ne_none, ne_eq, get?_eq_none_iff, Classical.not_not]

theorem mem_of_get?_eq_some (h : get? k fields = some v) : (k, v) ∈ fields := by
  induction fields with
  | nil => cases h
  | cons e rest ih =>
    rw [get?] at h
    split at h
    · next heq =>
      obtain rfl := Option.some.inj h
      exact List.mem_cons.mpr (.inl (Prod.ext heq.symm rfl))
    · exact List.mem_cons_of_mem _ (ih h)

/-- If no key occurs twice, a look-up finds exactly what is there. -/
theorem get?_eq_some_iff (hnodup : (keys fields).Nodup) :
    get? k fields = some v ↔ (k, v) ∈ fields := by
  refine ⟨mem_of_get?_eq_some, fun hmem => ?_⟩
  induction fields with
  | nil => cases hmem
  | cons e rest ih =>
    obtain ⟨hnot, hrest⟩ := List.nodup_cons.mp hnodup
    rcases List.mem_cons.mp hmem with rfl | hmem
    · exact if_pos rfl
    · have hne : e.1 ≠ k := fun h => hnot (h ▸ mem_keys_of_mem hmem)
      rw [get?, if_neg hne]
      exact ih hrest hmem

/-- Fields with the same members are looked up alike. -/
theorem get?_eq_of_perm (hperm : fields.Perm fields') (hnodup : (keys fields).Nodup) :
    get? k fields = get? k fields' := by
  have hnodup' : (keys fields').Nodup := (hperm.map Prod.fst).nodup_iff.mp hnodup
  refine Option.ext fun v => ?_
  rw [get?_eq_some_iff hnodup, get?_eq_some_iff hnodup', hperm.mem_iff]

/-- Ascending fields are determined by the look-ups. -/
theorem Ascending.eq_of_get?_eq (h : Ascending fields) (h' : Ascending fields')
    (hget : ∀ k, get? k fields = get? k fields') : fields = fields' := by
  have hmem : ∀ e, e ∈ fields ↔ e ∈ fields' := by
    rintro ⟨k, v⟩
    rw [← get?_eq_some_iff h.nodup, ← get?_eq_some_iff h'.nodup, hget]
  have hperm : fields.Perm fields' := by
    refine (List.perm_ext_iff_of_nodup ?_ ?_).mpr hmem
    · exact List.Nodup.of_map Prod.fst h.nodup
    · exact List.Nodup.of_map Prod.fst h'.nodup
  refine hperm.eq_of_pairwise ?_ (List.pairwise_map.mp h) (List.pairwise_map.mp h')
  intro a b _ _ hab hba
  exact absurd hba (String.lt_asymm hab)

/-! ## Setting keys -/

theorem mem_keys_put : k ∈ keys (put key v fields) ↔ k = key ∨ k ∈ keys fields := by
  rw [← isSome_get?_iff, get?_put, ← isSome_get?_iff]
  by_cases h : key = k
  · simp [h]
  · simp [h, Ne.symm h]

theorem ascending_put (h : Ascending fields) : Ascending (put key v fields) := by
  induction fields with
  | nil => exact List.pairwise_singleton ..
  | cons e rest ih =>
    obtain ⟨k, w⟩ := e
    obtain ⟨hbelow, hrest⟩ := ascending_cons.mp h
    rw [put]
    by_cases hlt : key < k
    · rw [if_pos hlt]
      refine ascending_cons.mpr ⟨?_, h⟩
      intro k' hk'
      rcases List.mem_cons.mp hk' with rfl | hk'
      · exact hlt
      · exact String.lt_trans hlt (hbelow k' hk')
    · rw [if_neg hlt]
      by_cases heq : key = k
      · rw [if_pos heq]
        exact ascending_cons.mpr ⟨heq ▸ hbelow, hrest⟩
      · rw [if_neg heq]
        refine ascending_cons.mpr ⟨?_, ih hrest⟩
        intro k' hk'
        rcases mem_keys_put.mp hk' with rfl | hk'
        · exact Std.lt_of_le_of_ne (String.not_lt.mp hlt) (Ne.symm heq)
        · exact hbelow k' hk'

/-- Setting a new key adds one field. -/
theorem put_perm (hnew : key ∉ keys fields) :
    (put key v fields).Perm ((key, v) :: fields) := by
  induction fields with
  | nil => exact .refl _
  | cons e rest ih =>
    obtain ⟨k, w⟩ := e
    obtain ⟨hne, hnew⟩ := not_or.mp (mt List.mem_cons.mpr hnew)
    rw [put, if_neg hne]
    split
    · exact .refl _
    · exact ((ih hnew).cons _).trans (.swap ..)

/-! ## Putting fields together -/

theorem ascending_putAll (h : Ascending fields) : Ascending (putAll entries fields) := by
  induction entries generalizing fields with
  | nil => exact h
  | cons e rest ih => exact ih (ascending_put h)

theorem ascending_ofList (entries : List (String × α)) : Ascending (ofList entries) :=
  ascending_putAll ascending_nil

theorem putAll_perm (hnodup : (keys entries).Nodup) (hnew : ∀ k ∈ keys entries, k ∉ keys fields) :
    (putAll entries fields).Perm (entries ++ fields) := by
  induction entries generalizing fields with
  | nil => exact .refl _
  | cons e rest ih =>
    obtain ⟨hnot, hrest⟩ := List.nodup_cons.mp hnodup
    obtain ⟨hfirst, hothers⟩ := List.forall_mem_cons.mp hnew
    have hput : (putAll rest (put e.1 e.2 fields)).Perm (rest ++ put e.1 e.2 fields) := by
      refine ih hrest fun k hk hmem => ?_
      rcases mem_keys_put.mp hmem with rfl | hmem
      · exact hnot hk
      · exact hothers k hk hmem
    exact (hput.trans ((put_perm hfirst).append_left rest)).trans List.perm_middle

/-- Fields with different keys are put together in another order, and all are there. -/
theorem ofList_perm (hnodup : (keys entries).Nodup) : (ofList entries).Perm entries := by
  have hperm : (ofList entries).Perm (entries ++ []) :=
    putAll_perm hnodup fun _ _ => List.not_mem_nil
  rwa [List.append_nil] at hperm

/-- Fields that ascend are in order already. -/
theorem Ascending.ofList_eq (h : Ascending fields) : ofList fields = fields := by
  refine (ascending_ofList fields).eq_of_get?_eq h fun k => ?_
  exact get?_eq_of_perm (ofList_perm h.nodup) (ascending_ofList fields).nodup

end IntentSelect.Json.Fields
