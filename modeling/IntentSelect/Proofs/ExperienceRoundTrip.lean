import IntentSelect.Experience
import IntentSelect.Proofs.ExpressionRoundTrip
import IntentSelect.Proofs.OrderedValues
import IntentSelect.Proofs.TimestampGrammar

/-! # Experiences that are written and read back

An experience is written as an object with one field for each of its parts; some parts are left
out if they are not there, and those that are themselves records are objects in turn.  Every record
is read back from its value as it was, part by part (`ofValue_canonical` of each record), except
that the expression of a fast-intent part comes back in normal form, and the update settled
(`Experience.normalize`).

The arguments of tool calls are free values, so what is written into them has to be a map to come
back: this is `Experience.Ordered`.  It holds of every experience that has been read, whatever the
document looks like.  Nor has any of these a stray leap second or an empty list, so they come back
as they are (`Experience.ensures_normal`).
-/
namespace IntentSelect

open Json Json.Reading Json.Slot

/-! ## Tool calls in order -/

/-- The arguments are a map, and so are all objects in them. -/
def ToolCall.Ordered (t : ToolCall) : Prop := (Value.object t.arguments).Ordered

def ToolPlan.Ordered (p : ToolPlan) : Prop := ∀ t ∈ p.toolCalls, t.Ordered

def ReactArtifact.Ordered (a : ReactArtifact) : Prop := ∀ p, a.plan = some p → p.Ordered

def Artifact.Ordered (a : Artifact) : Prop := ∀ r, a.react = some r → r.Ordered

/-- All arguments of tool calls are maps, as the arguments of calls in use are. -/
def Experience.Ordered (e : Experience) : Prop := ∀ a, e.artifact = some a → a.Ordered

theorem ToolCall.ensures_ordered : Ensures Value.Ordered ToolCall.reading ToolCall.Ordered := by
  refine Ensures.record Value.hereditary_ordered ?_ ordered_nil
  refine List.forall_mem_cons.mpr ⟨?toolName, List.forall_mem_singleton.mpr ?arguments⟩
  case toolName => exact Ensures.keeps fun _ _ h => h
  case arguments => exact ensures_table.map fun _ h _ _ => h

theorem ToolPlan.ensures_ordered : Ensures Value.Ordered ToolPlan.reading ToolPlan.Ordered := by
  refine Ensures.record Value.hereditary_ordered (List.forall_mem_singleton.mpr ?_) nofun
  exact (ToolCall.ensures_ordered.list Value.hereditary_ordered).map fun _ h _ _ => h

theorem ReactArtifact.ensures_ordered :
    Ensures Value.Ordered ReactArtifact.reading ReactArtifact.Ordered := by
  refine Ensures.record Value.hereditary_ordered ?_ nofun
  refine List.forall_mem_cons.mpr ⟨?assistantText, List.forall_mem_singleton.mpr ?plan⟩
  case assistantText => exact Ensures.keeps fun _ _ h => h
  case plan => exact ToolPlan.ensures_ordered.nullable.map fun _ h _ _ => h

theorem Artifact.ensures_ordered : Ensures Value.Ordered Artifact.reading Artifact.Ordered := by
  refine Ensures.record Value.hereditary_ordered ?_ nofun
  refine List.forall_mem_cons.mpr ⟨?code, List.forall_mem_singleton.mpr ?react⟩
  case code => exact Ensures.keeps fun _ _ h => h
  case react => exact ReactArtifact.ensures_ordered.nullable.map fun _ h _ _ => h

/-- **What is read from an ordered value, or from a text, has its arguments in order.** -/
theorem Experience.ensures_ordered (levels : Nat) :
    Ensures Value.Ordered (Experience.reading levels) Experience.Ordered := by
  refine Ensures.record Value.hereditary_ordered ?_ nofun
  have hartifact := Artifact.ensures_ordered.nullable
  simp only [Ensures.Kept, List.forall_mem_cons, List.not_mem_nil, false_implies, implies_true,
    and_true]
  refine ⟨?_, ?_, ?_, ?_, ?_, hartifact.map fun _ h _ _ => h⟩
  all_goals exact Ensures.keeps fun _ _ h => h

/-! ## Settled updates -/

/-- The update is no stray leap second. -/
def Experience.Settled (e : Experience) : Prop := ∀ t, e.updatedAt = some t → ¬ t.IsStray

/-- **No update that has been read is a stray leap second.** -/
theorem Experience.ensures_settled (levels : Nat) :
    Ensures Value.Ordered (Experience.reading levels) Experience.Settled := by
  refine Ensures.record Value.hereditary_ordered ?_ fun _ hnone => nomatch hnone
  have hupdate : Ensures Value.Ordered Timestamp.reading fun t => ¬ t.IsStray := by
    refine Ensures.converted fun h => ?_
    exact Timestamp.not_isStray_of_ofChars (mapError_eq_ok_iff.mp h)
  simp only [Ensures.Kept, List.forall_mem_cons, List.not_mem_nil, false_implies, implies_true,
    and_true]
  refine ⟨?_, ?_, ?_, hupdate.nullable.map fun _ h _ _ => h, ?_, ?_⟩
  all_goals exact Ensures.keeps fun _ _ h => h

/-! ## Parts of an experience -/

theorem canonical_string (s : String) : (Value.string s).canonical = .string s := rfl

theorem canonical_bool (b : Bool) : (Value.bool b).canonical = .bool b := rfl

section Lists
variable {α β : Type} {write : α → Value} {xs : List α}

theorem ofValue_canonical_list {r : Reading β} {f : α → β}
    (h : ∀ x ∈ xs, r.ofValue (write x).canonical = .ok (f x)) :
    (Reading.list r).ofValue (Value.array (xs.map write)).canonical = .ok (xs.map f) := by
  rw [canonical_array, List.map_map]
  exact ofValue_list_map h

theorem ofValue_canonical_list_self {r : Reading α}
    (h : ∀ x ∈ xs, r.ofValue (write x).canonical = .ok x) :
    (Reading.list r).ofValue (Value.array (xs.map write)).canonical = .ok xs :=
  (ofValue_canonical_list h).trans (congrArg _ (List.map_id' xs))

end Lists

theorem Mode.ofValue_name (m : Mode) : Mode.reading.ofValue (.string m.name) = .ok m := by
  cases m <;> rfl

theorem Fallback.ofValue_name (f : Fallback) :
    Fallback.reading.ofValue (.string f.name) = .ok f := by
  cases f <;> rfl

theorem ExperienceKind.ofValue_name (k : ExperienceKind) :
    ExperienceKind.reading.ofValue (.string k.name) = .ok k := by
  cases k <;> rfl

theorem ofValue_priorityJson (p : Int32) :
    priorityReading.ofValue (priorityJson p).canonical = .ok p := by
  have hlower : -0x80000000 ≤ p.toInt := Int32.le_toInt p
  have hupper : p.toInt < 0x80000000 := Int32.toInt_lt p
  obtain ⟨w, hval⟩ : ∃ w : Whole, w.val = p.toInt := ⟨⟨p.toInt, by omega, by omega⟩, rfl⟩
  have hjson : (priorityJson p).canonical = .number (.whole w) := by
    rw [priorityJson, ← hval, Whole.ofInt?_val]
    rfl
  have hread : boundedInt "i32" (-0x80000000) 0x7FFFFFFF (.whole w) = .ok p.toInt := by
    rw [boundedInt, if_pos (by omega), hval]
  rw [hjson]
  exact map_eq_ok_iff.mpr ⟨p.toInt, hread, Int32.ofInt_toInt p⟩

theorem Timestamp.ofValue_text (t : Timestamp) :
    Timestamp.reading.ofValue (.string t.text) = .ok t.settled := by
  simp only [Timestamp.reading, converted, Timestamp.text, String.toList_ofList,
    Timestamp.ofChars_chars]
  rfl

section Records
attribute [local simp] fillSlots Slot.optional Slot.mandatory independent_of_set ok_bind
  Fields.get?_append Fields.get?_always Fields.get?_whenSome take_nullable_self take_of_ofValue
  ofValue_text ofValue_flag canonical_string canonical_bool
  List.nodup_append' List.disjoint_left Fields.nodup_keys_always Fields.nodup_keys_whenSome
  Fields.mem_keys_always Fields.mem_keys_whenSome

theorem OnMatch.ofValue_canonical (o : OnMatch) :
    OnMatch.reading.ofValue o.toJson.canonical = .ok o := by
  refine ofValue_canonical_object (by simp) (by simp) (by simp) ?_
  simp [take_of_ofValue (Mode.ofValue_name _), take_of_ofValue (Fallback.ofValue_name _)]

theorem CodeArtifact.ofValue_canonical (a : CodeArtifact) :
    CodeArtifact.reading.ofValue a.toJson.canonical = .ok a := by
  have hparameters : (Reading.list .text).ofValue
      (Value.array (a.parameters.map .string)).canonical = .ok a.parameters :=
    ofValue_canonical_list_self fun s _ => ofValue_text s
  refine ofValue_canonical_object (by simp) (by simp) (by simp) ?_
  simp [take_of_ofValue hparameters]

theorem ToolCall.ofValue_canonical {t : ToolCall} (h : t.Ordered) :
    ToolCall.reading.ofValue t.toJson.canonical = .ok t := by
  have harguments : table.ofValue (Value.object t.arguments).canonical = .ok t.arguments := by
    rw [h]
    rfl
  refine ofValue_canonical_object (by simp) (by simp) (by simp) ?_
  simp [take_of_ofValue (ofValue_text _), take_of_ofValue harguments]

theorem ToolPlan.ofValue_canonical {p : ToolPlan} (h : p.Ordered) :
    ToolPlan.reading.ofValue p.toJson.canonical = .ok p := by
  have hcalls : (Reading.list ToolCall.reading).ofValue
      (Value.array (p.toolCalls.map ToolCall.toJson)).canonical = .ok p.toolCalls :=
    ofValue_canonical_list_self fun t ht => ToolCall.ofValue_canonical (h t ht)
  refine ofValue_canonical_object (by simp) (by simp) (by simp) ?_
  simp [take_of_ofValue hcalls]

theorem ReactArtifact.ofValue_canonical {a : ReactArtifact} (h : a.Ordered) :
    ReactArtifact.reading.ofValue a.toJson.canonical = .ok a := by
  have hnull (p : ToolPlan) : p.toJson.canonical ≠ .null := nofun
  have hplan (p : ToolPlan) (hp : a.plan = some p) :
      ToolPlan.reading.ofValue p.toJson.canonical = .ok p := ToolPlan.ofValue_canonical (h p hp)
  refine ofValue_canonical_object (by simp) (by simp) (by simp) ?_
  simp +contextual [hnull, hplan]

theorem Artifact.ofValue_canonical {a : Artifact} (h : a.Ordered) :
    Artifact.reading.ofValue a.toJson.canonical = .ok a := by
  have hcode (c : CodeArtifact) : c.toJson.canonical ≠ .null := nofun
  have hreact (r : ReactArtifact) : r.toJson.canonical ≠ .null := nofun
  have hread (r : ReactArtifact) (hr : a.react = some r) :
      ReactArtifact.reading.ofValue r.toJson.canonical = .ok r :=
    ReactArtifact.ofValue_canonical (h r hr)
  refine ofValue_canonical_object (by simp) (by simp) (by simp) ?_
  simp +contextual [hcode, CodeArtifact.ofValue_canonical, hreact, hread]

/-- The fast-intent part with its expression in normal form. -/
def FastIntent.normalize (f : FastIntent) : FastIntent :=
  { f with expression := f.expression.map Expression.normalize }

theorem FastIntent.ofValue_canonical (f : FastIntent) (levels : Nat)
    (h : f.toJson.canonical.depth ≤ levels) :
    (FastIntent.reading (levels + 1)).ofValue f.toJson.canonical = .ok f.normalize := by
  have hexpression (set : Option Expression → FastIntent → FastIntent) (s : FastIntent)
      (hnone : set none s = s) :
      take ⟨"match", false, (Expression.reading (levels + 1)).nullable.map set⟩
        (f.expression.map (Value.canonical ∘ Expression.toJson)) s =
        .ok (set (f.expression.map Expression.normalize) s) := by
    refine take_nullable hnone fun e he => ⟨Expression.canonical_toJson_ne_null e, ?_⟩
    -- the expression nests less than the part it stands in, so the levels suffice for it
    refine Expression.ofValue_canonical e levels (Nat.le_trans (Nat.le_of_lt ?_) h)
    refine depth_canonical_lt (k := "match") ?_ ?_
    · simp
    · simp [Option.mem_def.mp he]
  refine ofValue_canonical_object (by simp) (by simp) (by simp) ?_
  simp [take_of_ofValue (ofValue_priorityJson _), hexpression,
    take_of_ofValue (OnMatch.ofValue_canonical _), FastIntent.normalize]

/-- The experience with its update settled and its expression in normal form. -/
def Experience.normalize (e : Experience) : Experience :=
  { e with
    updatedAt := e.updatedAt.map Timestamp.settled
    fastIntent := e.fastIntent.map FastIntent.normalize }

/-- **An experience is read back from its value** up to a stray leap second as its update and empty
lists in its expression. -/
theorem Experience.ofValue_canonical {e : Experience} (horder : e.Ordered) (levels : Nat)
    (h : e.toJson.canonical.depth ≤ levels) :
    (Experience.reading (levels + 1)).ofValue e.toJson.canonical = .ok e.normalize := by
  have hupdate (set : Option Timestamp → Experience → Experience) (s : Experience)
      (hnone : set none s = s) :
      take ⟨"updatedAt", false, Timestamp.reading.nullable.map set⟩
        (e.updatedAt.map (Value.canonical ∘ fun t => .string t.text)) s =
        .ok (set (e.updatedAt.map Timestamp.settled) s) :=
    take_nullable hnone fun t _ => ⟨nofun, Timestamp.ofValue_text t⟩
  have hfast (set : Option FastIntent → Experience → Experience) (s : Experience)
      (hnone : set none s = s) :
      take ⟨"fastIntentConfig", false, (FastIntent.reading (levels + 1)).nullable.map set⟩
        (e.fastIntent.map (Value.canonical ∘ FastIntent.toJson)) s =
        .ok (set (e.fastIntent.map FastIntent.normalize) s) := by
    refine take_nullable hnone fun f hf => ⟨nofun, ?_⟩
    refine FastIntent.ofValue_canonical f levels (Nat.le_trans (Nat.le_of_lt ?_) h)
    refine depth_canonical_lt (k := "fastIntentConfig") ?_ ?_
    · simp
    · simp [Option.mem_def.mp hf]
  have hnull (a : Artifact) : a.toJson.canonical ≠ .null := nofun
  have hartifact (a : Artifact) (ha : e.artifact = some a) :
      Artifact.reading.ofValue a.toJson.canonical = .ok a :=
    Artifact.ofValue_canonical (horder a ha)
  refine ofValue_canonical_object (by simp) (by simp) (by simp) ?_
  simp +contextual [take_of_ofValue (ExperienceKind.ofValue_name _), hupdate, hfast, hnull,
    hartifact, Experience.normalize]

end Records

/-! ## Experiences in normal form -/

/-- Nowhere in the expression stands a list of no parts. -/
def FastIntent.NoEmptyList (f : FastIntent) : Prop := ∀ x, f.expression = some x → x.NoEmptyList

def Experience.NoEmptyList (e : Experience) : Prop := ∀ f, e.fastIntent = some f → f.NoEmptyList

theorem FastIntent.ensures_noEmptyList (levels : Nat) :
    Ensures Value.Ordered (FastIntent.reading levels) FastIntent.NoEmptyList := by
  refine Ensures.record Value.hereditary_ordered ?_ nofun
  have hexpression : Ensures Value.Ordered (Expression.reading levels) Expression.NoEmptyList :=
    (Expression.ensures_reading levels).of_true
  simp only [Ensures.Kept, List.forall_mem_cons, List.not_mem_nil, false_implies, implies_true,
    and_true]
  refine ⟨?_, ?_, hexpression.nullable.map fun _ h _ _ => h, ?_⟩
  all_goals exact Ensures.keeps fun _ _ h => h

/-- **No experience that has been read has an empty list in its expression.** -/
theorem Experience.ensures_noEmptyList (levels : Nat) :
    Ensures Value.Ordered (Experience.reading levels) Experience.NoEmptyList := by
  refine Ensures.record Value.hereditary_ordered ?_ nofun
  have hfast := (FastIntent.ensures_noEmptyList levels).nullable
  simp only [Ensures.Kept, List.forall_mem_cons, List.not_mem_nil, false_implies, implies_true,
    and_true]
  refine ⟨?_, ?_, ?_, ?_, hfast.map fun _ h _ _ => h, ?_⟩
  all_goals exact Ensures.keeps fun _ _ h => h

theorem FastIntent.NoEmptyList.normalize_eq {f : FastIntent} (h : f.NoEmptyList) :
    f.normalize = f := by
  obtain ⟨enabled, priority, expression, onMatch⟩ := f
  cases expression with
  | none => rfl
  | some x =>
    have hx : x.normalize = x := (h x rfl).normalize_eq
    rw [normalize, Option.map_some, hx]

theorem Experience.Settled.map_eq {e : Experience} (h : e.Settled) :
    e.updatedAt.map Timestamp.settled = e.updatedAt := by
  cases hupdate : e.updatedAt with
  | none => rfl
  | some t => rw [Option.map_some, Timestamp.settled_of_not_isStray (h t hupdate)]

/-- An experience that is written and read back unchanged. -/
structure Experience.Normal (e : Experience) : Prop where
  ordered : e.Ordered
  settled : e.Settled
  noEmptyList : e.NoEmptyList

theorem Experience.Normal.normalize_eq {e : Experience} (h : e.Normal) : e.normalize = e := by
  have hfast : e.fastIntent.map FastIntent.normalize = e.fastIntent := by
    cases hpart : e.fastIntent with
    | none => rfl
    | some f => rw [Option.map_some, (h.noEmptyList f hpart).normalize_eq]
  rw [normalize, h.settled.map_eq, hfast]

/-- **Every experience that has been read is read back unchanged.** -/
theorem Experience.ensures_normal (levels : Nat) :
    Ensures Value.Ordered (Experience.reading levels) Experience.Normal where
  ofValue hv h :=
    ⟨(ensures_ordered levels).ofValue hv h, (ensures_settled levels).ofValue hv h,
      (ensures_noEmptyList levels).ofValue hv h⟩
  ofText h :=
    ⟨(ensures_ordered levels).ofText h, (ensures_settled levels).ofText h,
      (ensures_noEmptyList levels).ofText h⟩

end IntentSelect
