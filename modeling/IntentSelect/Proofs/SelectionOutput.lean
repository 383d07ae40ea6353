import IntentSelect.Proofs.CatalogReload
import IntentSelect.Proofs.ExitStatus
import IntentSelect.Proofs.NamedSignals
import IntentSelect.Proofs.SpelledValues
import Mathlib

/-! # The selection as a document

A run that is asked for JSON shows what it has selected as one document.  Whoever reads it learns
what the library would have answered: whether an experience is selected for the context that the
request describes (`Request.Describes`), and which one.  The experience can be read back as it is,
since what has been loaded is in normal form (`Catalog.mem_of_loadPath`), and what is written of it
is read from any text of it.

Of arguments that hold doubles nothing is said but that the document is one.
-/
namespace IntentSelect

open Json Json.Reading Text

/-! ## Experiences without doubles -/

/-- The tool calls that an experience plans. -/
def Experience.toolCalls (e : Experience) : List ToolCall :=
  ((e.artifact.bind Artifact.react).bind ReactArtifact.plan).elim [] ToolPlan.toolCalls

/-- No argument of a planned call holds a double. -/
def Experience.FloatFree (e : Experience) : Prop :=
  ∀ t ∈ e.toolCalls, (Value.object t.arguments).isFloatFree = true

section FloatFree
variable {α : Type} {write : α → Value}

theorem isFloatFree_array (items : List Value) :
    (Value.array items).isFloatFree = items.all Value.isFloatFree :=
  itemsFloatFree_eq items

theorem isFloatFree_object (fields : List (String × Value)) :
    (Value.object fields).isFloatFree = fields.all fun e => e.2.isFloatFree :=
  fieldsFloatFree_eq fields

theorem isFloatFree_string (s : String) : (Value.string s).isFloatFree = true := rfl

theorem isFloatFree_bool (b : Bool) : (Value.bool b).isFloatFree = true := rfl

theorem all_always (name : String) (v : Value) :
    ((always name v).all fun e => e.2.isFloatFree) = v.isFloatFree := by
  simp [always]

theorem all_whenSome (name : String) (o : Option α) :
    ((whenSome name write o).all fun e => e.2.isFloatFree) =
      o.all fun x => (write x).isFloatFree := by
  cases o <;> simp [whenSome]

theorem all_whenNonempty (name : String) (xs : List α) :
    ((whenNonempty name write xs).all fun e => e.2.isFloatFree) =
      xs.all fun x => (write x).isFloatFree := by
  cases xs <;> simp [whenNonempty, isFloatFree_array, List.all_map, Function.comp_def]

attribute [local simp] isFloatFree_array isFloatFree_object isFloatFree_string isFloatFree_bool
  all_always all_whenSome all_whenNonempty

theorem Condition.isFloatFree_toJson (c : Condition) : c.toJson.isFloatFree = true := by
  simp [toJson]

theorem Expression.isFloatFree_toJson (e : Expression) : e.toJson.isFloatFree = true := by
  induction e with
  | not child ih => simp [toJson, ih]
  | allOf es ih =>
    cases es with
    | nil => simp [toJson]
    | cons e es => simpa [toJson, listToJson_eq] using ih
  | anyOf es ih =>
    cases es with
    | nil => simp [toJson]
    | cons e es => simpa [toJson, listToJson_eq] using ih
  | condition c => simp [toJson, c.isFloatFree_toJson]
  | empty => simp [toJson]

theorem isFloatFree_priorityJson (p : Int32) : (priorityJson p).isFloatFree = true := by
  unfold priorityJson
  split <;> rfl

theorem FastIntent.isFloatFree_toJson (f : FastIntent) : f.toJson.isFloatFree = true := by
  simp [toJson, isFloatFree_priorityJson, Expression.isFloatFree_toJson, OnMatch.toJson]

theorem CodeArtifact.isFloatFree_toJson (a : CodeArtifact) : a.toJson.isFloatFree = true := by
  simp [toJson]

theorem ToolPlan.isFloatFree_toJson {p : ToolPlan}
    (h : ∀ t ∈ p.toolCalls, (Value.object t.arguments).isFloatFree = true) :
    p.toJson.isFloatFree = true := by
  simpa [toJson, ToolCall.toJson] using h

/-- **Only the arguments of tool calls can bring doubles into what is written.** -/
theorem Experience.isFloatFree_toJson {e : Experience} (h : e.FloatFree) :
    e.toJson.isFloatFree = true := by
  have hplan (a : Artifact) (ha : a ∈ e.artifact) (r : ReactArtifact) (hr : r ∈ a.react)
      (p : ToolPlan) (hp : p ∈ r.plan) : p.toJson.isFloatFree = true := by
    refine ToolPlan.isFloatFree_toJson fun t ht => h t ?_
    rw [Option.mem_def] at ha hr hp
    simpa [toolCalls, ha, hr, hp] using ht
  have hreact (a : Artifact) (ha : a ∈ e.artifact) (r : ReactArtifact) (hr : r ∈ a.react) :
      r.toJson.isFloatFree = true := by
    simpa [ReactArtifact.toJson, Option.all_eq_true] using hplan a ha r hr
  simpa [toJson, FastIntent.isFloatFree_toJson, Artifact.toJson, CodeArtifact.isFloatFree_toJson,
    Option.all_eq_true] using hreact

end FloatFree

/-! ## Experiences that have been loaded -/

namespace Catalog
variable {files : Storage} {path : String} {count : Nat} {c : Catalog} {e : Experience}

/-- What has been loaded is in normal form. -/
theorem mem_of_loadPath (h : (empty.loadPath files path).result = .ok (count, c))
    (he : e ∈ c.toList) : e.Normal := by
  have hrun : (Call.loadPath files path).run empty = .ok (count, c) := h
  obtain ⟨batch, hbatch, hextend⟩ := Call.exists_batch_of_run hrun
  obtain ⟨-, hlist, -⟩ := consistent_empty.extend hextend
  have hmem : e ∈ batch := by
    rw [hlist] at he
    exact (List.mem_append.mp he).resolve_left (List.not_mem_nil)
  exact Call.of_batch Experience.ensures_normal (List.forall_mem_nil _) hbatch e hmem

end Catalog

/-- An experience in normal form is decoded from what is written of it. -/
theorem Experience.decode_canonical {e : Experience} (h : e.Normal) :
    decode e.toJson.canonical = .ok e := by
  have hread := ofValue_canonical h.ordered _ (Nat.le_refl e.toJson.canonical.depth)
  rw [h.normalize_eq] at hread
  exact decode_eq_ok_iff.mpr hread

/-- The bytes of a text are a text. -/
theorem Storage.textOf_toUTF8 (text : String) : textOf (.ok text.toUTF8) = .ok text := by
  have hbytes : String.fromUTF8? text.toUTF8 = some text := dif_pos text.isValidUTF8
  simp only [textOf, ok_bind, hbytes]

/-- **A file that holds the text of an experience is loaded as that experience.** -/
theorem Catalog.loadPath_of_file {files : Storage} {path : String} {e : Experience}
    (hfile : files.look path = .file (.ok e.toJson.compact.toUTF8)) (hnormal : e.Normal)
    (hfloat : e.FloatFree) (hdepth : e.toJson.depth ≤ depthLimit) (hid : hasText e.id = true) :
    (empty.loadPath files path).result = .ok (1, empty.push e) := by
  have hdecode : decodeDocument e.toJson.canonical = .ok [e] := by
    have hone := Experience.decode_canonical hnormal
    exact map_eq_ok_iff.mpr ⟨e, mapError_eq_ok_iff.mpr hone, rfl⟩
  have hread : readText e.toJson.compact = .ok [e] := by
    have hparse := (isDocument_compact e.toJson).parse (Experience.isFloatFree_toJson hfloat) hdepth
    exact bind_eq_ok_iff.mpr ⟨_, mapError_eq_ok_iff.mpr hparse, hdecode⟩
  have htext : files.readText path = .ok e.toJson.compact := by
    rw [Storage.readText, hfile]
    exact Storage.textOf_toUTF8 e.toJson.compact
  have hbatch : (Call.loadPath files path).batch = .ok [e] := by
    have hdirectory : files.isDirectory path = false := by rw [Storage.isDirectory, hfile]
    rw [Call.batch, hdirectory, if_neg Bool.false_ne_true]
    exact bind_eq_ok_iff.mpr ⟨_, mapError_eq_ok_iff.mpr htext, mapError_eq_ok_iff.mpr hread⟩
  have hfits : empty.Fits [e] :=
    ⟨List.forall_mem_singleton.mpr hid, by simp [empty], List.nodup_singleton e.id⟩
  show (Call.loadPath files path).run empty = _
  rw [Call.run_eq, hbatch]
  exact extend_eq_ok_iff.mpr ⟨hfits, rfl, rfl⟩

namespace CommandLine

section
variable {files : Storage} {arguments : List String} {r : Request} {config : Config}
  {catalog : Catalog} {ctx : Context} {key : String}

/-! ## The context of a request -/

/-- The last value that entries give for a key. -/
def lastGiven? (key : String) (entries : List (String × Value)) : Option Value :=
  Fields.get? key entries.reverse

theorem get?_putAll (entries fields : List (String × Value)) :
    Fields.get? key (Fields.putAll entries fields) =
      (lastGiven? key entries).or (Fields.get? key fields) := by
  induction entries generalizing fields with
  | nil => rfl
  | cons e rest ih =>
    have hput := ih (Fields.put e.1 e.2 fields)
    rw [Fields.get?_put] at hput
    rw [lastGiven?, List.reverse_cons, Fields.get?_append, Option.or_assoc]
    refine hput.trans (congrArg _ ?_)
    unfold Fields.get?
    split <;> rfl

theorem get?_ofList (entries : List (String × Value)) :
    Fields.get? key (Fields.ofList entries) = lastGiven? key entries := by
  rw [Fields.ofList, get?_putAll]
  exact Option.or_none

/-- The context has the input of the request and, under each key, the last value that the request
gives for it. -/
structure Request.Describes (r : Request) (ctx : Context) : Prop where
  input : ctx.input = some r.input
  metadata : ∀ key, ctx.metadataValue key = lastGiven? key r.metadata
  state : ∀ key, hasText key = true → ctx.stateValue key = .ofOption (lastGiven? key r.state)
  toolArgs : ∀ key, ctx.toolArg key = lastGiven? key r.toolArgs

theorem Request.describes_context (r : Request) : r.Describes r.context where
  input := rfl
  metadata key := get?_ofList r.metadata
  state key hkey := by
    rw [Context.stateValue, if_pos hkey]
    exact congrArg Answer.ofOption (get?_ofList r.state)
  toolArgs key := get?_ofList r.toolArgs

/-- Two contexts that a request describes cannot be told apart by what conditions look at. -/
theorem Request.Describes.agrees {ctx' : Context} (h : r.Describes ctx) (h' : r.Describes ctx')
    (σ : Signal) : σ.Agrees ctx ctx' := by
  cases σ with
  | input => exact h.input.trans h'.input.symm
  | metadata key => exact (h.metadata key).trans (h'.metadata key).symm
  | toolArg key => exact (h.toolArgs key).trans (h'.toolArgs key).symm
  | state key =>
    cases hkey : hasText key with
    | true => exact (h.state key hkey).trans (h'.state key hkey).symm
    | false =>
      -- the state is not asked for a blank key
      have habsent (ctx : Context) : ctx.stateValue key = .absent :=
        if_neg (ne_true_of_eq_false hkey)
      exact (habsent ctx).trans (habsent ctx').symm

theorem Request.Describes.selected_eq (h : r.Describes ctx) :
    ((Selector.build [] config).result.best? ctx catalog.toList).result =
      r.selected config catalog := by
  have hselection : (Selector.build [] config).result.best? ctx catalog.toList =
      (Selector.build [] config).result.best? r.context catalog.toList := by
    refine (Selector.selection_congr fun x _ c _ => ?_).2
    exact Registry.decide_eq_of_agrees config fun σ _ => h.agrees r.describes_context σ
  exact congrArg Traced.result hselection

/-! ## The document -/

/-- What is shown of a selection: whether there is one, and the experience or `null`. -/
def shown (best : Option Experience) : Value :=
  .object [("matched", .bool best.isSome), ("experience", best.elim .null Experience.toJson)]

theorem selectionJson_eq (best : Option Experience) : selectionJson best = shown best := by
  cases best <;> rfl

theorem canonical_shown (e : Experience) : (shown (some e)).canonical =
    .object [("experience", e.toJson.canonical), ("matched", .bool true)] := by
  have hlt : "experience" < "matched" := by decide
  simp [shown, Value.canonical, canonicalFields, Fields.ofList, Fields.putAll, Fields.put, hlt]

theorem isFloatFree_shown {e : Experience} (h : e.FloatFree) :
    (shown (some e)).isFloatFree = true := by
  have hjson := Experience.isFloatFree_toJson h
  simp [shown, isFloatFree_object, isFloatFree_bool, hjson]

end

/-! ### A visit in English -/

namespace Visit

/-- A plan of one call, for whoever speaks English. -/
def plan : Experience where
  id := "visit"
  title := "Plan a \"visit\""
  kind := .react
  updatedAt := Timestamp.ofParts? 1700000099 1500000000
  fastIntent := some (.ofExpression (.condition
    { kind := "metadata_equals", key := some "lang", value := some "en" }))
  artifact := some { react := some { plan := some { toolCalls := [{
    toolName := "search"
    arguments := [("limit", .number (.whole ⟨-3, by decide, by decide⟩)),
      ("text", .string "museum")] }] } } }

def files : Storage where
  look path :=
    if path = "visit.json" then .file (.ok plan.toJson.compact.toUTF8) else .refused .notFound

/-- The language is given twice. -/
def arguments : List String :=
  ["--json", "--metadata", "lang=de", "--metadata", "lang=\"en\"", "-e", "visit.json", "hi"]

def request : Request where
  input := "hi"
  experiences := "visit.json"
  metadata := [("lang", .string "de"), ("lang", .string "en")]
  json := true

def context : Context := { input := some "hi", metadata := [("lang", .string "en")] }

def catalog : Catalog := Catalog.empty.push plan

theorem normal_plan : plan.Normal where
  ordered := by
    rintro _ ⟨⟩ _ ⟨⟩ _ ⟨⟩
    exact List.forall_mem_singleton.mpr rfl
  settled := by
    rintro _ ⟨⟩
    decide
  noEmptyList := by
    rintro _ ⟨⟩ _ ⟨⟩
    exact Expression.noEmptyList_iff.mpr ⟨nofun, nofun, nofun⟩

theorem floatFree_plan : plan.FloatFree := List.forall_mem_singleton.mpr rfl

theorem depth_plan : plan.toJson.depth ≤ 126 := by decide +kernel

theorem accepted : Accepted files arguments request {} catalog where
  understood := by cbv
  configured := rfl
  loaded := by
    have hdepth : plan.toJson.depth ≤ depthLimit := Nat.le_succ_of_le depth_plan
    have hfile : files.look "visit.json" = .file (.ok plan.toJson.compact.toUTF8) := by
      simp only [files, ↓reduceIte]
    have hid : hasText plan.id = true := by decide +kernel
    have hload := Catalog.loadPath_of_file hfile normal_plan floatFree_plan hdepth hid
    exact ⟨1, hload⟩

theorem describes : request.Describes context where
  input := rfl
  metadata key := by
    simp only [Context.metadataValue, context, lastGiven?, request, List.reverse_cons,
      List.reverse_nil, List.nil_append, List.cons_append, Fields.get?]
    split <;> rfl
  state key hkey := if_pos hkey
  toolArgs key := rfl

theorem selected_plan :
    ((Selector.build [] {}).result.best? context catalog.toList).result = some plan := by
  have hlist : catalog.toList = [plan] := Catalog.toList_push Catalog.empty plan
  rw [hlist]
  rfl

end Visit

end CommandLine

end IntentSelect
