import IntentSelect.Catalog
import IntentSelect.Config
import IntentSelect.Proofs.DirectReading
import IntentSelect.Proofs.ReadingLevels

/-! # Two routes to a document

A configuration is decoded directly from its text, a catalog decodes experiences from the value of
the text.  Whatever is decoded, both routes lead to the same (`parse_iff_decode`), as long as no
object in the text repeats a key; only the value does not show that one is repeated.

Each record reads alike because its fields do, and because what two fields change has nothing to do
with each other.  The routes also differ in how many levels of expressions they allow, but neither
uses them up.
-/
namespace IntentSelect

open Json Json.Reading Json.Slot

/-! ## The records of documents -/

section Records
attribute [local simp] Slot.optional Slot.mandatory independent_of_set

theorem Condition.readsAlike_reading : Condition.reading.ReadsAlike := by
  refine readsAlike_record (by simp [slots]) ⟨?kind, ?key, ?value, ?values, ?pattern, ?ignoreCase,
    ?trim⟩
  case kind => exact readsAlike_text.map _
  case key => exact readsAlike_text.nullable.map _
  case value => exact readsAlike_any.nullable.map _
  case values => exact readsAlike_any.list.nullable.map _
  case pattern => exact readsAlike_text.nullable.map _
  case ignoreCase => exact readsAlike_flag.nullable.map _
  case trim => exact readsAlike_flag.nullable.map _

theorem Expression.readsAlike_reading (levels : Nat) : (Expression.reading levels).ReadsAlike := by
  induction levels with
  | zero =>
    intro d cs w rest _ _
    rfl
  | succ levels ih =>
    refine ReadsAlike.map (ReadsAlike.nullable ?_) _
    refine readsAlike_record (by simp [slots]) ⟨?anyOf, ?allOf, ?not, ?condition⟩
    case anyOf => exact ih.list.nullable.map _
    case allOf => exact ih.list.nullable.map _
    case not => exact ih.nullable.map _
    case condition => exact Condition.readsAlike_reading.nullable.map _

theorem OnMatch.readsAlike_reading : OnMatch.reading.ReadsAlike :=
  readsAlike_record (by simp) ⟨(readsAlike_choice _).map _, (readsAlike_choice _).map _⟩

theorem readsAlike_priorityReading : priorityReading.ReadsAlike := (readsAlike_integer ..).map _

theorem FastIntent.readsAlike_reading (levels : Nat) :
    (FastIntent.reading levels).ReadsAlike := by
  refine readsAlike_record (by simp) ⟨?enabled, ?priority, ?expression, ?onMatch⟩
  case enabled => exact readsAlike_flag.map _
  case priority => exact readsAlike_priorityReading.map _
  case expression => exact (Expression.readsAlike_reading levels).nullable.map _
  case onMatch => exact OnMatch.readsAlike_reading.map _

theorem CodeArtifact.readsAlike_reading : CodeArtifact.reading.ReadsAlike := by
  have htext := readsAlike_text.nullable
  refine readsAlike_record (by simp) ⟨htext.map _, htext.map _, ?parameters, htext.map _,
    htext.map _⟩
  case parameters => exact readsAlike_text.list.map _

theorem ToolCall.readsAlike_reading : ToolCall.reading.ReadsAlike :=
  readsAlike_record (by simp) ⟨readsAlike_text.map _, readsAlike_table.map _⟩

theorem ToolPlan.readsAlike_reading : ToolPlan.reading.ReadsAlike :=
  readsAlike_record (by simp) (ToolCall.readsAlike_reading.list.map _)

theorem ReactArtifact.readsAlike_reading : ReactArtifact.reading.ReadsAlike :=
  readsAlike_record (by simp)
    ⟨readsAlike_text.nullable.map _, ToolPlan.readsAlike_reading.nullable.map _⟩

theorem Artifact.readsAlike_reading : Artifact.reading.ReadsAlike :=
  readsAlike_record (by simp)
    ⟨CodeArtifact.readsAlike_reading.nullable.map _,
      ReactArtifact.readsAlike_reading.nullable.map _⟩

theorem Timestamp.readsAlike_reading : Timestamp.reading.ReadsAlike := readsAlike_converted ..

theorem Experience.readsAlike_reading (levels : Nat) :
    (Experience.reading levels).ReadsAlike := by
  refine readsAlike_record (by simp) ⟨?id, ?title, ?kind, ?updatedAt, ?fastIntent, ?artifact⟩
  case id => exact readsAlike_text.map _
  case title => exact readsAlike_text.map _
  case kind => exact (readsAlike_choice _).map _
  case updatedAt => exact Timestamp.readsAlike_reading.nullable.map _
  case fastIntent => exact (FastIntent.readsAlike_reading levels).nullable.map _
  case artifact => exact Artifact.readsAlike_reading.nullable.map _

theorem Config.readsAlike_reading : Config.reading.ReadsAlike :=
  readsAlike_record (by simp) ⟨readsAlike_flag.map _, (readsAlike_integer ..).map _⟩

end Records

/-! ## Whole documents -/

section Documents
variable {α : Type} {r r' : Reading α} {text : String} {v : Value} {x : α}

theorem Json.Value.depth_le_of_parse (h : Value.parse text = .ok v) : v.depth ≤ depthLimit := by
  obtain ⟨rest, hscan, -⟩ := toEnd_eq_ok_iff.mp (mapError_eq_ok_iff.mp h)
  exact depth_le_of_scanValue hscan

/-- A text is read to its end on both routes. -/
theorem Json.Reading.ReadsAlike.parse_eq_ok_iff (h : r.ReadsAlike) (hkeys : RepeatsNoKey text)
    (hv : Value.parse text = .ok v) : r.parse text = .ok x ↔ r.ofValue v = .ok x := by
  obtain ⟨w, hw, hkeys⟩ := hkeys
  rw [parse_eq_map_written, hw] at hv
  cases hv
  obtain ⟨rest, hscan, hend⟩ := toEnd_eq_ok_iff.mp (mapError_eq_ok_iff.mp hw)
  have hread := h hscan hkeys
  rw [parse, mapError_eq_ok_iff, toEnd_eq_ok_iff]
  constructor
  · rintro ⟨more, htext, -⟩
    rw [htext] at hread
    obtain ⟨y, hy, heq⟩ := Option.map_eq_some_iff.mp hread.symm
    cases heq
    exact toOption_eq_some_iff.mp hy
  · intro hof
    rw [hof] at hread
    exact ⟨rest, toOption_eq_some_iff.mp hread, hend⟩

/-- The routes may go on with different levels, as long as those of the second suffice. -/
theorem Json.Reading.ReadsAlike.parse_eq_ok_iff_of_same (h : r.ReadsAlike)
    (hsame : SameWithin (v.depth + 1) r r') (hkeys : RepeatsNoKey text)
    (hv : Value.parse text = .ok v) : r.parse text = .ok x ↔ r'.decode v = .ok x := by
  rw [h.parse_eq_ok_iff hkeys hv, hsame v (Nat.lt_succ_self _), decode_eq_ok_iff]

theorem Config.parse_eq_ok_iff {c : Config} :
    Config.parse text = .ok c ↔ Config.reading.parse text = .ok c ∧ c.validate = .ok () := by
  constructor
  · intro h
    obtain ⟨c, hread, h⟩ := bind_eq_ok_iff.mp h
    obtain ⟨_, hvalid, h⟩ := bind_eq_ok_iff.mp h
    cases h
    exact ⟨mapError_eq_ok_iff.mp hread, hvalid⟩
  · rintro ⟨hread, hvalid⟩
    have hchecked : (c.validate >>= fun _ => pure c) = .ok c := by rw [hvalid]; rfl
    exact bind_eq_ok_iff.mpr ⟨c, mapError_eq_ok_iff.mpr hread, hchecked⟩

/-- **Both routes lead to the same.** Let no object in a text repeat a key, and let the text have a
value.  Then an expression, an experience or a configuration is decoded from the text if and only if
it is decoded from the value.  So a configuration, which is decoded from its text, could as well be
decoded from the value and then be checked; and the experiences that a catalog reads, by way of the
value, are those that are decoded from the text. -/
theorem parse_iff_decode (hkeys : RepeatsNoKey text) (hv : Value.parse text = .ok v) :
    (∀ e, Expression.parse text = .ok e ↔ Expression.decode v = .ok e) ∧
    (∀ e, Experience.parse text = .ok e ↔ Experience.decode v = .ok e) ∧
    (∀ c, Config.reading.parse text = .ok c ↔ Config.reading.decode v = .ok c) ∧
    (∀ c, Config.parse text = .ok c ↔ Config.reading.decode v = .ok c ∧ c.validate = .ok ()) ∧
    (∀ es, Catalog.readText text = .ok es ↔
      (∃ items, v = .array items) ∧ Experience.parseList text = .ok es ∨
      (∃ fields, v = .object fields) ∧ ∃ e, Experience.parse text = .ok e ∧ [e] = es) := by
  have hdepth : v.depth + 1 ≤ depthLimit + 1 := Nat.succ_le_succ (Value.depth_le_of_parse hv)
  have hlevels := Expression.sameWithin_reading hdepth (Nat.le_refl (v.depth + 1))
  have hlevels' := Experience.sameWithin_reading hdepth (Nat.le_refl (v.depth + 1))
  have hone (e : Experience) : Experience.parse text = .ok e ↔ Experience.decode v = .ok e :=
    (Experience.readsAlike_reading _).parse_eq_ok_iff_of_same hlevels' hkeys hv
  have hmany (es : List Experience) :
      Experience.parseList text = .ok es ↔ Experience.decodeList v = .ok es :=
    (Experience.readsAlike_reading _).list.parse_eq_ok_iff_of_same hlevels'.list hkeys hv
  have hconfig (c : Config) :
      Config.reading.parse text = .ok c ↔ Config.reading.decode v = .ok c :=
    Config.readsAlike_reading.parse_eq_ok_iff_of_same (.refl _ _) hkeys hv
  refine ⟨fun e => ?expression, hone, hconfig, fun c => ?config, fun es => ?catalog⟩
  case expression =>
    exact (Expression.readsAlike_reading _).parse_eq_ok_iff_of_same hlevels hkeys hv
  case config => rw [Config.parse_eq_ok_iff, hconfig]
  case catalog =>
    have hread : Catalog.readText text = Catalog.decodeDocument v := by
      rw [Catalog.readText, hv]
      rfl
    rw [hread]
    cases v with
    | array items => simp [Catalog.decodeDocument, mapError_eq_ok_iff, hmany]
    | object fields => simp [Catalog.decodeDocument, map_eq_ok_iff, mapError_eq_ok_iff, hone]
    | null => simp [Catalog.decodeDocument]
    | bool b => simp [Catalog.decodeDocument]
    | number n => simp [Catalog.decodeDocument]
    | string s => simp [Catalog.decodeDocument]

end Documents

namespace Note

/-- The fields are not in the order of their keys, one of them is unknown, and the kind is written
as an object. -/
def text : String :=
  "\x7b\"type\":\x7b\"CODE\":null\x7d,\"by\":[\x7b\x7d],\"id\":\"\\u0061\"\x7d"

end Note

open Note in
/-- The note is decoded on both routes. -/
theorem parse_iff_decode_note :
    RepeatsNoKey text ∧ ∃ v e, Value.parse text = .ok v ∧
      Experience.parse text = .ok e ∧ Experience.decode v = .ok e ∧
      e.kind = .code ∧ e.id = "a" := by
  have hkeys : RepeatsNoKey text := by decide +kernel
  obtain ⟨w, hwritten, -⟩ := id hkeys
  have hvalue : Value.parse text = .ok w.canonical := by
    rw [parse_eq_map_written, hwritten]
    rfl
  have hparts : ((Experience.parse text).toOption.map fun e => (e.kind, e.id)) =
      some (.code, "a") := by
    decide +kernel
  obtain ⟨e, he, heq⟩ := Option.map_eq_some_iff.mp hparts
  obtain ⟨hkind, hid⟩ := Prod.mk.inj heq
  obtain ⟨-, hexperience, -⟩ := parse_iff_decode hkeys hvalue
  have hparse : Experience.parse text = .ok e := toOption_eq_some_iff.mp he
  exact ⟨hkeys, w.canonical, e, hvalue, hparse, (hexperience e).mp hparse, hkind, hid⟩

/-- A key that is repeated is noticed on the direct route alone; the value has the last field. -/
example :
    let text := "\x7b\"enabled\": true, \"enabled\": false\x7d"
    (Config.reading.parse text).toOption = none ∧
      ((Value.parse text).toOption.bind fun v => (Config.reading.decode v).toOption) =
        some { enabled := false } := by
  decide +kernel

end IntentSelect
