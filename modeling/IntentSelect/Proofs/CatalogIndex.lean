import IntentSelect.Catalog

/-! # A catalog and its index

A catalog keeps its experiences twice: in the order of adding, and by id in an
index of places.  `Consistent` says that the two agree, and that no id is blank;
it makes the ids different from one another (`Consistent.nodup`) and look-ups
exact (`Consistent.get?_eq_some_iff`).

A batch is checked before anything is added.  The check is exactly that the batch
`Fits`: its ids are not blank, not taken, and different from one another.  The
places of a batch are counted while it is being added, and adding a batch that fits
keeps the catalog consistent (`Consistent.extend`).
-/
namespace IntentSelect.Catalog

variable {c c' : Catalog} {e : Experience} {batch : List Experience} {id : String}

/-! ## Agreement -/

/-- The ids of a catalog, in the order of adding. -/
def ids (c : Catalog) : List String := c.toList.map Experience.id

/-- No id is blank, and the index has an id at a place exactly if the id stands at
that place. -/
structure Consistent (c : Catalog) : Prop where
  hasText : ∀ id ∈ c.ids, Text.hasText id = true
  indexOf?_eq_some_iff : ∀ id i, c.indexOf? id = some i ↔ c.ids[i]? = some id

theorem consistent_empty : Consistent {} where
  hasText _ hid := by cases hid
  indexOf?_eq_some_iff id i := by simp [indexOf?, ids, toList]

theorem getElem?_ids (c : Catalog) (i : Nat) :
    c.ids[i]? = c.experiences[i]?.map Experience.id := by
  simp [ids, toList]

namespace Consistent

/-- An id has one place. -/
theorem nodup (hc : c.Consistent) : c.ids.Nodup := by
  rw [List.Nodup, List.pairwise_iff_getElem]
  intro i j hi hj hij hid
  have hi' := (hc.indexOf?_eq_some_iff _ i).mpr (List.getElem?_eq_getElem hi)
  have hj' := (hc.indexOf?_eq_some_iff _ j).mpr (List.getElem?_eq_getElem hj)
  rw [hid, hj'] at hi'
  exact absurd (Option.some.inj hi').symm (Nat.ne_of_lt hij)

/-- The ids in the index are those of the experiences. -/
theorem contains_iff (hc : c.Consistent) : c.index.contains id = true ↔ id ∈ c.ids := by
  rw [Std.HashMap.contains_eq_isSome_getElem?, Option.isSome_iff_exists,
    List.mem_iff_getElem?]
  exact exists_congr fun i => hc.indexOf?_eq_some_iff id i

/-- A look-up finds exactly the experiences with the id. -/
theorem get?_eq_some_iff (hc : c.Consistent) :
    c.get? id = some e ↔ e ∈ c.toList ∧ e.id = id := by
  constructor
  · intro h
    obtain ⟨i, hi, he⟩ := Option.bind_eq_some_iff.mp h
    have hid := (hc.indexOf?_eq_some_iff id i).mp hi
    rw [getElem?_ids, he] at hid
    exact ⟨Array.mem_toList_iff.mpr (Array.mem_of_getElem? he), Option.some.inj hid⟩
  · rintro ⟨he, rfl⟩
    obtain ⟨i, hi⟩ := Array.mem_iff_getElem?.mp (Array.mem_toList_iff.mp he)
    have hid : c.ids[i]? = some e.id := by rw [getElem?_ids, hi]; rfl
    exact Option.bind_eq_some_iff.mpr ⟨i, (hc.indexOf?_eq_some_iff e.id i).mpr hid, hi⟩

/-- A look-up fails exactly for the ids that no experience has. -/
theorem get?_eq_none_iff (hc : c.Consistent) : c.get? id = none ↔ id ∉ c.ids := by
  rw [Option.eq_none_iff_forall_ne_some]
  simp only [ne_eq, hc.get?_eq_some_iff, ids, List.mem_map, not_exists]

end Consistent

/-! ## Adding one experience -/

theorem toList_push (c : Catalog) (e : Experience) :
    (c.push e).toList = c.toList ++ [e] := by
  simp [toList, push]

theorem ids_push (c : Catalog) (e : Experience) : (c.push e).ids = c.ids ++ [e.id] := by
  simp [ids, toList_push]

theorem contains_push (c : Catalog) (e : Experience) (id : String) :
    (c.push e).index.contains id = (e.id == id || c.index.contains id) := by
  simp [push, Std.HashMap.contains_insert]

/-- The place that a new id gets is the number of experiences before it. -/
theorem indexOf?_push (c : Catalog) (e : Experience) (id : String) :
    (c.push e).indexOf? id = if e.id = id then some c.ids.length else c.indexOf? id := by
  simp [push, indexOf?, Std.HashMap.getElem?_insert, ids, toList]

theorem Consistent.push (hc : c.Consistent) (htext : Text.hasText e.id = true)
    (hfree : c.index.contains e.id = false) : (c.push e).Consistent where
  hasText id hid := by
    rw [ids_push, List.mem_append, List.mem_singleton] at hid
    rcases hid with hid | rfl
    · exact hc.hasText id hid
    · exact htext
  indexOf?_eq_some_iff id i := by
    have hnew : e.id ∉ c.ids := by
      intro hid
      rw [hc.contains_iff.mpr hid] at hfree
      cases hfree
    rw [indexOf?_push, ids_push]
    by_cases hid : e.id = id
    · subst hid
      rw [if_pos rfl, Option.some.injEq]
      constructor
      · rintro rfl
        simp
      · intro h
        -- the new id stands at none of the old places
        by_cases hi : i < c.ids.length
        · rw [List.getElem?_append_left hi] at h
          exact absurd (List.mem_of_getElem? h) hnew
        · obtain ⟨hlt, -⟩ := List.getElem?_eq_some_iff.mp h
          rw [List.length_append, List.length_singleton] at hlt
          omega
    · rw [if_neg hid, hc.indexOf?_eq_some_iff]
      by_cases hi : i < c.ids.length
      · rw [List.getElem?_append_left hi]
      · have hi' : c.ids.length ≤ i := by omega
        rw [List.getElem?_eq_none hi', List.getElem?_append_right hi']
        refine iff_of_false (by simp) fun h => hid ?_
        exact (List.mem_singleton.mp (List.mem_of_getElem? h)).symm

/-! ## Adding a batch -/

/-- The ids of a batch are not blank, not taken, and different from one another. -/
structure Fits (c : Catalog) (batch : List Experience) : Prop where
  hasText : ∀ e ∈ batch, Text.hasText e.id = true
  free : ∀ e ∈ batch, c.index.contains e.id = false
  different : (batch.map Experience.id).Nodup

theorem fits_cons : c.Fits (e :: batch) ↔
    (Text.hasText e.id = true ∧ c.index.contains e.id = false ∧
      e.id ∉ batch.map Experience.id) ∧ c.Fits batch := by
  constructor
  · rintro ⟨htext, hfree, hdiff⟩
    obtain ⟨hnot, hdiff⟩ := List.nodup_cons.mp hdiff
    exact ⟨⟨htext e (by simp), hfree e (by simp), hnot⟩,
      fun d hd => htext d (by simp [hd]), fun d hd => hfree d (by simp [hd]), hdiff⟩
  · rintro ⟨⟨htext, hfree, hnot⟩, hfits⟩
    refine ⟨?_, ?_, List.nodup_cons.mpr ⟨hnot, hfits.different⟩⟩
    · exact List.forall_mem_cons.mpr ⟨htext, hfits.hasText⟩
    · exact List.forall_mem_cons.mpr ⟨hfree, hfits.free⟩

/-- The check of a batch compares each id also with those seen before it. -/
theorem check_eq_ok_iff (c : Catalog) (seen : List String) (batch : List Experience) :
    c.check seen batch = .ok () ↔ c.Fits batch ∧ ∀ e ∈ batch, e.id ∉ seen := by
  induction batch generalizing seen with
  | nil =>
    refine iff_of_true rfl ⟨⟨?_, ?_, List.nodup_nil⟩, ?_⟩ <;>
      exact fun _ he => (List.not_mem_nil he).elim
  | cons e es ih =>
    have hseen : (∀ d ∈ es, d.id ∉ e.id :: seen) ↔
        e.id ∉ es.map Experience.id ∧ ∀ d ∈ es, d.id ∉ seen := by
      simp only [List.mem_cons, not_or, List.mem_map, not_exists, not_and]
      exact ⟨fun h => ⟨fun d hd => (h d hd).1, fun d hd => (h d hd).2⟩,
        fun h d hd => ⟨h.1 d hd, h.2 d hd⟩⟩
    rw [fits_cons, List.forall_mem_cons]
    unfold check
    by_cases htext : Text.hasText e.id = true
    · rw [if_pos htext]
      by_cases htaken : (c.index.contains e.id || seen.contains e.id) = true
      · rw [if_pos htaken]
        refine iff_of_false (by simp) ?_
        rintro ⟨⟨⟨-, hfree, -⟩, -⟩, hnot, -⟩
        rw [hfree, Bool.false_or, List.contains_iff_mem] at htaken
        exact hnot htaken
      · rw [if_neg htaken, ih, hseen]
        rw [Bool.or_eq_true, not_or, Bool.not_eq_true, List.contains_iff_mem] at htaken
        obtain ⟨hfree, hnot⟩ := htaken
        constructor
        · rintro ⟨hfits, hdiff, hrest⟩
          exact ⟨⟨⟨htext, hfree, hdiff⟩, hfits⟩, hnot, hrest⟩
        · rintro ⟨⟨⟨-, -, hdiff⟩, hfits⟩, -, hrest⟩
          exact ⟨hfits, hdiff, hrest⟩
    · rw [if_neg htext]
      exact iff_of_false (by simp) fun h => htext h.1.1.1

/-- In other words, no id of a batch is blank, and none stands twice in the catalog with the batch
after it. -/
theorem Consistent.fits_iff (hc : c.Consistent) : c.Fits batch ↔
    (∀ e ∈ batch, Text.hasText e.id = true) ∧
      ((c.toList ++ batch).map Experience.id).Nodup := by
  have hfree : (∀ e ∈ batch, c.index.contains e.id = false) ↔
      ∀ id ∈ c.ids, ∀ id' ∈ batch.map Experience.id, id ≠ id' := by
    simp only [Bool.eq_false_iff, ne_eq, hc.contains_iff, List.forall_mem_map]
    exact ⟨fun h id hid e he heq => h e he (heq ▸ hid), fun h e he hid => h _ hid e he rfl⟩
  rw [List.map_append, List.nodup_append]
  constructor
  · rintro ⟨htext, hnew, hdiff⟩
    exact ⟨htext, hc.nodup, hdiff, hfree.mp hnew⟩
  · rintro ⟨htext, -, hdiff, hnew⟩
    exact ⟨htext, hfree.mpr hnew, hdiff⟩

/-- A batch that fits is added as a whole; any other is refused. -/
theorem extend_eq_ok_iff {n : Nat} : c.extend batch = .ok (n, c') ↔
    c.Fits batch ∧ n = batch.length ∧ c' = batch.foldl push c := by
  have hcheck := check_eq_ok_iff c [] batch
  unfold extend
  cases h : c.check [] batch with
  | error e =>
    rw [h] at hcheck
    refine iff_of_false (by simp [bind, Except.bind]) fun hok => ?_
    cases hcheck.mpr ⟨hok.1, by simp⟩
  | ok u =>
    rw [h] at hcheck
    have hfits := (hcheck.mp rfl).1
    simp [bind, Except.bind, pure, Except.pure, hfits, eq_comm]

theorem toList_foldl_push (c : Catalog) (batch : List Experience) :
    (batch.foldl push c).toList = c.toList ++ batch := by
  induction batch generalizing c with
  | nil => simp
  | cons e es ih => simp [ih, toList_push]

theorem Fits.push (h : c.Fits (e :: batch)) : (c.push e).Fits batch := by
  obtain ⟨⟨-, -, hnot⟩, hfits⟩ := fits_cons.mp h
  refine ⟨hfits.hasText, ?_, hfits.different⟩
  intro d hd
  rw [contains_push, hfits.free d hd, Bool.or_false, beq_eq_false_iff_ne]
  exact fun hid => hnot (List.mem_map.mpr ⟨d, hd, hid.symm⟩)

theorem Consistent.foldl_push (hc : c.Consistent) (hfits : c.Fits batch) :
    (batch.foldl Catalog.push c).Consistent := by
  induction batch generalizing c with
  | nil => exact hc
  | cons e es ih =>
    exact ih (hc.push (hfits.hasText e (by simp)) (hfits.free e (by simp))) hfits.push

/-- **Adding a batch keeps the catalog consistent.** -/
theorem Consistent.extend (hc : c.Consistent) {n : Nat} (h : c.extend batch = .ok (n, c')) :
    c'.Consistent ∧ c'.toList = c.toList ++ batch ∧ n = batch.length := by
  obtain ⟨hfits, rfl, rfl⟩ := extend_eq_ok_iff.mp h
  exact ⟨hc.foldl_push hfits, toList_foldl_push c batch, rfl⟩

end IntentSelect.Catalog
