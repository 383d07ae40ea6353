import IntentSelect.Proofs.FieldOrder
import IntentSelect.Proofs.NormalForm
import IntentSelect.Proofs.WrittenTexts

/-! # Expressions that are written and read back

A condition comes back as it was, from its value whatever the order of the fields
(`Condition.ofValue_canonical`) and from its text (`Condition.readsText_reading`).  An expression
is written as an object with at most one field, so it comes back if its parts do; a list of no
parts is written as no field at all, and comes back as the empty expression.  Both ways of
reading are followed by induction on the expression, with as many levels left as its value is
deep (`ofValue_canonical`) or as arrays and objects may still be opened (`readsText_reading`).
-/
namespace IntentSelect

open Json Json.Reading Json.Slot

/-! ## Conditions -/

namespace Condition
variable {c : Condition} {d : Nat}

/-- The fields in which a condition is written. -/
def fields (c : Condition) : List (String × Value) :=
  always "type" (.string c.kind) ++ whenSome "key" .string c.key ++
    whenSome "value" .string c.value ++ whenNonempty "values" .string c.values ++
    whenSome "pattern" .string c.pattern ++ whenSome "ignoreCase" .bool c.ignoreCase ++
    whenSome "trim" .bool c.trim

theorem forall_mem_fields {P : String × Value → Prop} :
    (∀ e ∈ c.fields, P e) ↔ P ("type", .string c.kind) ∧ (∀ s ∈ c.key, P ("key", .string s)) ∧
      (∀ s ∈ c.value, P ("value", .string s)) ∧
      (c.values ≠ [] → P ("values", .array (c.values.map .string))) ∧
      (∀ s ∈ c.pattern, P ("pattern", .string s)) ∧
      (∀ b ∈ c.ignoreCase, P ("ignoreCase", .bool b)) ∧ ∀ b ∈ c.trim, P ("trim", .bool b) := by
  simp only [fields, List.forall_mem_append, Fields.forall_mem_always, Fields.forall_mem_whenSome,
    Fields.forall_mem_whenNonempty, and_assoc]

theorem independent_slots : slots.Pairwise Slot.Independent := by
  simp [slots, Slot.optional, independent_of_set]

theorem nodup_keys_fields (c : Condition) : (Fields.keys c.fields).Nodup := by
  simp [fields, List.nodup_append', List.disjoint_left, Fields.nodup_keys_always,
    Fields.nodup_keys_whenSome, Fields.nodup_keys_whenNonempty, Fields.mem_keys_always,
    Fields.mem_keys_whenSome, Fields.mem_keys_whenNonempty]

/-- The slot of a text that may be any value fills in the text that has been written. -/
theorem take_value {value : Option String} {s : Condition} (h : s.value = none) :
    take ⟨"value", false, any.nullable.map fun v s => { s with value := v.bind Value.text? }⟩
      (value.map .string) s = .ok { s with value := value } := by
  have hset : { s with value := (none : Option Value).bind Value.text? } = s := by
    cases s
    simp_all
  refine (take_nullable hset fun t _ => ⟨Value.noConfusion, rfl⟩).trans ?_
  cases value <;> rfl

/-- The slot of a list fills in the texts that have been written. -/
theorem take_values {values : List String} {s : Condition} (h : s.values = []) :
    take ⟨"values", false, (Reading.list any).nullable.map fun vs s =>
        { s with values := (vs.getD []).filterMap Value.text? }⟩
      (Fields.get? "values" (whenNonempty "values" .string values)) s =
      .ok { s with values := values } := by
  have hset : { s with values := ((some []).getD []).filterMap Value.text? } = s := by
    cases s
    simp_all
  rw [take_whenNonempty hset fun x _ => rfl]
  have htexts : (values.map Value.string).filterMap Value.text? = values := by
    rw [List.filterMap_map]
    exact List.filterMap_some
  simp only [Option.getD_some]
  exact congrArg (fun values => Except.ok { s with values := values }) htexts

theorem fillSlots_fields (c : Condition) :
    fillSlots (Fields.get? · c.fields) slots {} = .ok c := by
  simp [fillSlots, slots, Slot.optional, fields, Fields.get?_append, Fields.get?_always,
    Fields.get?_whenSome, Fields.get?_whenNonempty_of_ne, take_nullable_self, take_value,
    take_values, take_of_ofValue (ofValue_text _), ok_bind, ofValue_text, ofValue_flag]

/-- What is written holds texts and flags only, which are in canonical form. -/
theorem canonicalFields_fields (c : Condition) : canonicalFields c.fields = c.fields := by
  refine canonicalFields_eq_self_iff.mpr (forall_mem_fields.mpr ?_)
  simp [Value.canonical, canonicalItems_eq]

/-- **A condition is read back from its value.** -/
theorem ofValue_canonical (c : Condition) : reading.ofValue c.toJson.canonical = .ok c := by
  refine ofValue_canonical_object independent_slots (nodup_keys_fields c) ?_ ?_
  · simp [slots, Slot.optional]
  · have hget (k : String) : (Fields.get? k c.fields).map Value.canonical =
        Fields.get? k c.fields := by
      rw [← Fields.get?_canonicalFields, canonicalFields_fields]
    rw [← fillSlots_fields c]
    exact fillSlots_congr fun slot _ => hget slot.name

theorem readsEntries_fields (c : Condition) (d : Nat) : ReadsEntries slots d [] {} c.fields c := by
  obtain ⟨seen, hfill, -⟩ := fillByName_of_fillSlots independent_slots (nodup_keys_fields c)
    (fun _ _ => List.not_mem_nil) (fillSlots_fields c)
  refine ReadsEntries.of_fillByName (forall_mem_fields.mpr ?_) hfill
  refine ⟨?kind, ?key, ?value, ?values, ?pattern, ?ignoreCase, ?trim⟩
  case kind => exact ⟨_, _, rfl, rfl, (readsText_text d c.kind).map _⟩
  case key => exact fun s _ => ⟨_, _, rfl, rfl, ((readsText_text d s).nullable rfl).map _⟩
  case value => exact fun s _ => ⟨_, _, rfl, rfl, ((readsText_any d s).nullable rfl).map _⟩
  case values =>
    intro _
    have hlist : (Reading.list any).ReadsText d (.array (c.values.map .string))
        (c.values.map .string) :=
      ReadsText.list fun d' _ => by
        rw [List.forall₂_map_left_iff, List.forall₂_map_right_iff, List.forall₂_same]
        exact fun s _ => readsText_any d' s
    refine ⟨_, _, rfl, ?_, (hlist.nullable rfl).map _⟩
    refine map_eq_ok_iff.mpr ⟨_, ofValue_nullable_eq_ok_iff.mpr (.inr ⟨nofun, _, ?_, rfl⟩), rfl⟩
    exact ofValue_list_map fun s _ => rfl
  case pattern => exact fun s _ => ⟨_, _, rfl, rfl, ((readsText_text d s).nullable rfl).map _⟩
  case ignoreCase => exact fun b _ => ⟨_, _, rfl, rfl, ((readsText_flag d b).nullable rfl).map _⟩
  case trim => exact fun b _ => ⟨_, _, rfl, rfl, ((readsText_flag d b).nullable rfl).map _⟩

/-- **A condition is read back from its text.** -/
theorem readsText_reading (c : Condition) (d : Nat) : reading.ReadsText d c.toJson c :=
  ReadsText.record (by simp [slots, Slot.optional]) fun d' _ => readsEntries_fields c d'

end Condition

/-! ## Expressions -/

namespace Expression
variable {child : Reading Expression} {e : Expression} {es : List Expression} {d levels : Nat}
  {key : String} {v : Value} {α : Type} {r : Reading α} {x : α} {set : Option α → Parts → Parts}

theorem listToJson_eq (es : List Expression) : listToJson es = es.map toJson := by
  induction es with
  | nil => rfl
  | cons e es ih => rw [listToJson, ih, List.map_cons]

theorem toJson_allOf (h : es ≠ []) :
    (allOf es).toJson = .object [("allOf", .array (es.map toJson))] := by
  cases es with
  | nil => exact absurd rfl h
  | cons e es => rw [toJson, listToJson_eq, List.map_cons]

theorem toJson_anyOf (h : es ≠ []) :
    (anyOf es).toJson = .object [("anyOf", .array (es.map toJson))] := by
  cases es with
  | nil => exact absurd rfl h
  | cons e es => rw [toJson, listToJson_eq, List.map_cons]

theorem ofParts_allOf (h : es ≠ []) : ofParts { allOf := es } = .allOf es := by
  cases es with
  | nil => exact absurd rfl h
  | cons e es => rfl

theorem ofParts_anyOf (h : es ≠ []) : ofParts { anyOf := es } = .anyOf es := by
  cases es with
  | nil => exact absurd rfl h
  | cons e es => rfl

theorem isPlain_toJson (e : Expression) : e.toJson.isPlain = true := by
  cases e with
  | not child => rfl
  | allOf es => cases es <;> rfl
  | anyOf es => cases es <;> rfl
  | condition c => rfl
  | empty => rfl

theorem canonical_toJson_ne_null (e : Expression) : e.toJson.canonical ≠ .null := by
  cases e with
  | not child => exact nofun
  | allOf es => cases es <;> exact nofun
  | anyOf es => cases es <;> exact nofun
  | condition c => exact nofun
  | empty => exact nofun

theorem required_slots (child : Reading Expression) :
    ∀ slot ∈ slots child, slot.required = false := by
  simp [slots, Slot.optional]

/-! ### One field

Whatever is written of an expression is an object with at most one field, which is the field of
one of these slots.
-/

/-- The slot of a name. -/
def slot? (child : Reading Expression) (key : String) : Option (Slot Parts) :=
  (slots child).find? fun slot => slot.name == key

theorem slot?_not (child : Reading Expression) : slot? child "not" =
    some (.optional "not" child.nullable fun e p => { p with not := e }) :=
  rfl

theorem slot?_allOf (child : Reading Expression) : slot? child "allOf" =
    some (.optional "allOf" (Reading.list child).nullable fun es p =>
      { p with allOf := es.getD [] }) :=
  rfl

theorem slot?_anyOf (child : Reading Expression) : slot? child "anyOf" =
    some (.optional "anyOf" (Reading.list child).nullable fun es p =>
      { p with anyOf := es.getD [] }) :=
  rfl

theorem slot?_condition (child : Reading Expression) : slot? child "condition" =
    some (.optional "condition" Condition.reading.nullable fun c p => { p with condition := c }) :=
  rfl

theorem ofValue_single (hslot : slot? child key = some (.optional key r.nullable set))
    (hnull : v.canonical ≠ .null) (h : r.ofValue v.canonical = .ok x) :
    (readingOver child).ofValue (Value.object [(key, v)]).canonical =
      .ok (ofParts (set (some x) {})) := by
  have hchange : (r.nullable.map set).ofValue v.canonical = .ok (set (some x)) :=
    map_eq_ok_iff.mpr ⟨some x, ofValue_nullable_eq_ok_iff.mpr (.inr ⟨hnull, x, h, rfl⟩), rfl⟩
  have hfill : fillByName (slots child) [(key, v.canonical)] [] {} =
      .ok (set (some x) {}, [key]) := by
    unfold slot? at hslot
    simp only [fillByName, hslot, Slot.optional, hchange, ok_bind]
    rfl
  have hmissing : missing? (slots child) [key] = none :=
    missing?_eq_none_iff.mpr fun slot hmem h => by simp [required_slots child slot hmem] at h
  have hobject : (Value.object [(key, v)]).canonical ≠ .null := by simp [Value.canonical]
  refine map_eq_ok_iff.mpr ⟨some (set (some x) {}), ?_, rfl⟩
  refine ofValue_nullable_eq_ok_iff.mpr (.inr ⟨hobject, set (some x) {}, ?_, rfl⟩)
  exact ofValue_object_eq_ok_iff.mpr ⟨[key], hfill, hmissing⟩

theorem readsText_record {entries : List (String × Value)} {p : Parts}
    (h : ∀ d', d = d' + 1 → ReadsEntries (slots child) d' [] {} entries p) :
    (readingOver child).ReadsText d (.object entries) (ofParts p) := by
  have hrecord : (Reading.record "RawMatchExpression" (slots child) {}).ReadsText d
      (.object entries) p := ReadsText.record (required_slots child) h
  exact (hrecord.nullable rfl).map _

theorem readsText_single (hslot : slot? child key = some (.optional key r.nullable set))
    (hplain : v.isPlain = true) (h : ∀ d', d = d' + 1 → r.ReadsText d' v x) :
    (readingOver child).ReadsText d (.object [(key, v)]) (ofParts (set (some x) {})) := by
  refine readsText_record fun d' hd => .cons hslot List.not_mem_nil ?_ .nil
  exact ((h d' hd).nullable hplain).map set

theorem readsText_nothing (child : Reading Expression) (d : Nat) :
    (readingOver child).ReadsText d (.object []) .empty :=
  readsText_record fun _ _ => .nil

/-! ### From a value -/

theorem depth_canonical_single (key : String) (v : Value) :
    (Value.object [(key, v)]).canonical.depth = v.canonical.depth + 1 := by
  show max v.canonical.depth 0 + 1 = _
  rw [Nat.max_zero]

/-- A list of parts is read if each of them is. -/
theorem ofValue_parts (h : (Value.array (es.map toJson)).canonical.depth ≤ levels)
    (ih : ∀ e ∈ es, ∀ levels, e.toJson.canonical.depth ≤ levels →
      (reading (levels + 1)).ofValue e.toJson.canonical = .ok e.normalize) :
    (Reading.list (reading (levels + 1))).ofValue (Value.array (es.map toJson)).canonical =
      .ok (es.map normalize) := by
  rw [canonical_array, List.map_map] at h ⊢
  refine ofValue_list_map fun e he => ih e he levels ?_
  have hmem : e.toJson.canonical ∈ es.map (Value.canonical ∘ toJson) :=
    List.mem_map.mpr ⟨e, he, rfl⟩
  exact Nat.le_trans (depth_le_itemsDepth hmem) (Nat.le_of_succ_le h)

/-- **An expression is read from its value up to empty lists.** -/
theorem ofValue_canonical (e : Expression) (levels : Nat)
    (h : e.toJson.canonical.depth ≤ levels) :
    (reading (levels + 1)).ofValue e.toJson.canonical = .ok e.normalize := by
  -- every field that is opened uses up one level on both sides of `h`
  induction e generalizing levels with
  | not child ih =>
    rw [toJson, depth_canonical_single] at h
    obtain ⟨n, rfl⟩ : ∃ n, levels = n + 1 := Nat.exists_eq_succ_of_ne_zero (by omega)
    exact ofValue_single (slot?_not _) (canonical_toJson_ne_null child)
      (ih n (Nat.le_of_succ_le_succ h))
  | allOf es ih =>
    by_cases hnil : es = []
    · subst hnil
      rfl
    · rw [toJson_allOf hnil, depth_canonical_single] at h
      obtain ⟨n, rfl⟩ : ∃ n, levels = n + 1 := Nat.exists_eq_succ_of_ne_zero (by omega)
      rw [toJson_allOf hnil, normalize_allOf hnil,
        ← ofParts_allOf (mt List.map_eq_nil_iff.mp hnil)]
      exact ofValue_single (slot?_allOf _) nofun (ofValue_parts (Nat.le_of_succ_le_succ h) ih)
  | anyOf es ih =>
    by_cases hnil : es = []
    · subst hnil
      rfl
    · rw [toJson_anyOf hnil, depth_canonical_single] at h
      obtain ⟨n, rfl⟩ : ∃ n, levels = n + 1 := Nat.exists_eq_succ_of_ne_zero (by omega)
      rw [toJson_anyOf hnil, normalize_anyOf hnil,
        ← ofParts_anyOf (mt List.map_eq_nil_iff.mp hnil)]
      exact ofValue_single (slot?_anyOf _) nofun (ofValue_parts (Nat.le_of_succ_le_succ h) ih)
  | condition c => exact ofValue_single (slot?_condition _) nofun (Condition.ofValue_canonical c)
  | empty => rfl

/-! ### From a text -/

/-- The text of a list of parts is read if that of each of them is. -/
theorem readsText_parts (h : d ≤ levels) (ih : ∀ e ∈ es, ∀ d levels, d ≤ levels →
      (reading (levels + 1)).ReadsText d e.toJson e.normalize) :
    (Reading.list (reading (levels + 1))).ReadsText d (.array (es.map toJson))
      (es.map normalize) := by
  refine ReadsText.list fun d' hd => ?_
  rw [List.forall₂_map_left_iff, List.forall₂_map_right_iff, List.forall₂_same]
  exact fun e he => ih e he d' levels (by omega)

/-- **An expression is read from its text up to empty lists**, as long as the text does not nest
deeper than allowed. -/
theorem readsText_reading (e : Expression) (d levels : Nat) (h : d ≤ levels) :
    (reading (levels + 1)).ReadsText d e.toJson e.normalize := by
  induction e generalizing d levels with
  | not child ih =>
    refine readsText_single (slot?_not _) (isPlain_toJson child) fun d' hd => ?_
    obtain ⟨n, rfl⟩ : ∃ n, levels = n + 1 := Nat.exists_eq_succ_of_ne_zero (by omega)
    exact ih d' n (by omega)
  | allOf es ih =>
    by_cases hnil : es = []
    · subst hnil
      exact readsText_nothing (reading levels) d
    · rw [toJson_allOf hnil, normalize_allOf hnil,
        ← ofParts_allOf (mt List.map_eq_nil_iff.mp hnil)]
      refine readsText_single (slot?_allOf _) rfl fun d' hd => ?_
      obtain ⟨n, rfl⟩ : ∃ n, levels = n + 1 := Nat.exists_eq_succ_of_ne_zero (by omega)
      exact readsText_parts (by omega) ih
  | anyOf es ih =>
    by_cases hnil : es = []
    · subst hnil
      exact readsText_nothing (reading levels) d
    · rw [toJson_anyOf hnil, normalize_anyOf hnil,
        ← ofParts_anyOf (mt List.map_eq_nil_iff.mp hnil)]
      refine readsText_single (slot?_anyOf _) rfl fun d' hd => ?_
      obtain ⟨n, rfl⟩ : ∃ n, levels = n + 1 := Nat.exists_eq_succ_of_ne_zero (by omega)
      exact readsText_parts (by omega) ih
  | condition c =>
    exact readsText_single (slot?_condition _) rfl fun d' _ => Condition.readsText_reading c d'
  | empty => exact readsText_nothing (reading levels) d

/-! ### The round trip -/

theorem decode_toJson (e : Expression) : decode e.toJson.canonical = .ok e.normalize :=
  decode_eq_ok_iff.mpr (ofValue_canonical e _ (Nat.le_refl _))

/-- What has been decoded, on its own or as a part of something else, from a value or from a
text. -/
def Decoded (e : Expression) : Prop :=
  (∃ levels v, (reading levels).ofValue v = .ok e) ∨
    ∃ levels depth cs rest, (reading levels).ofText depth cs = .ok (e, rest)

theorem decoded_of_decode (h : decode v = .ok e) : e.Decoded := .inl ⟨_, v, decode_eq_ok_iff.mp h⟩

theorem Decoded.noEmptyList (h : e.Decoded) : e.NoEmptyList := by
  rcases h with ⟨levels, v, h⟩ | ⟨levels, depth, cs, rest, h⟩
  · exact (ensures_reading levels).ofValue trivial h
  · exact (ensures_reading levels).ofText h

/-- **What becomes of an expression that is written and read back.**

Through a value it comes back with the empty expression in place of every empty list, wherever
it stands, and otherwise unchanged; that evaluates like the original in every context, with the
same calls of matchers and the same events on the way.  What has been decoded has no empty
lists, so it comes back as it is.  Through a text it comes back in the same way if the text does
not nest deeper than 127 arrays and objects, and is refused if it does. -/
theorem round_trip :
    (∀ e : Expression, decode e.toJson.canonical = .ok e.normalize) ∧
    (∀ (e : Expression) place, e.normalize.at? place = (e.at? place).map normalize) ∧
    (∀ e : Expression, e.normalize = e ↔ e.NoEmptyList) ∧
    (∀ (e : Expression) (r : Registry) (ctx : Context),
      r.evaluate ctx e.normalize = r.evaluate ctx e) ∧
    (∀ e : Expression, e.Decoded → e.NoEmptyList ∧ decode e.toJson.canonical = .ok e) ∧
    ∀ e : Expression, (parse e.toJson.compact).toOption =
      if e.toJson.depth ≤ 127 then some e.normalize else none := by
  refine ⟨decode_toJson, at?_normalize, ?_, ?_, ?_, ?_⟩
  · exact fun e => ⟨fun h => h ▸ noEmptyList_normalize e, NoEmptyList.normalize_eq⟩
  · exact fun e r ctx => evaluate_normalize e
  · intro e h
    refine ⟨h.noEmptyList, ?_⟩
    rw [decode_toJson, h.noEmptyList.normalize_eq]
  · exact fun e => (readsText_reading e depthLimit depthLimit (Nat.le_refl _)).parse

/-- A negated conjunction with an empty disjunction in it. -/
def nested : Expression :=
  .not (.allOf [.anyOf [], .condition { kind := "metadata_exists", key := some "vip" }])

/-- Only the empty disjunction is lost, and what comes back is not changed again. -/
theorem round_trip_nested :
    decode nested.toJson.canonical = .ok
      (.not (.allOf [.empty, .condition { kind := "metadata_exists", key := some "vip" }])) ∧
    nested.normalize.Decoded ∧
    decode nested.normalize.toJson.canonical = .ok nested.normalize := by
  have hdecode : decode nested.toJson.canonical = .ok nested.normalize := round_trip.1 nested
  have hdecoded : nested.normalize.Decoded := decoded_of_decode hdecode
  exact ⟨hdecode, hdecoded, (round_trip.2.2.2.2.1 nested.normalize hdecoded).2⟩

end Expression

end IntentSelect
