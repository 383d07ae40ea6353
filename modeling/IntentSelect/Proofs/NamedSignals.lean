import IntentSelect.Proofs.RegistryBuilding

/-! # What built-in conditions look at

A built-in condition looks at one thing at most: at the input, or at what the context has under
the condition's key in one of three places.  Which it is can be told from the condition alone
(`Condition.signal?`), and a blank key names nothing.  So two contexts that agree on the signals
that an expression names cannot be told apart by it, in the answer or in anything done on the
way to it (`noninterference`).

A matcher of the host could look at anything, so the registry is one without any: its matchers
are the built-in ones, and each answers alike in contexts that agree on the signal of the condition
(`run_eq_of_agrees`).  From decisions the agreement is carried on through expressions and
candidates as that of two registries is, which differ in nothing here (`Traced.Alike.eq`).
-/
namespace IntentSelect

open Json Text

/-! ## Signals -/

/-- Something that a context has and a condition may look at. -/
inductive Signal where
  | input
  | metadata (key : String)
  | state (key : String)
  | toolArg (key : String)
deriving DecidableEq

/-- Two contexts agree on a signal.  A state that crashes is an answer like any other, so it agrees
with one that crashes in the same way. -/
def Signal.Agrees (ctx ctx' : Context) : Signal → Prop
  | .input => ctx.input = ctx'.input
  | .metadata key => ctx.metadataValue key = ctx'.metadataValue key
  | .state key => ctx.stateValue key = ctx'.stateValue key
  | .toolArg key => ctx.toolArg key = ctx'.toolArg key

/-- The signal that a condition names by its kind and its key, which must not be blank. -/
def Condition.signal? (c : Condition) : Option Signal :=
  match c.kind with
  | "message_prefix" | "message_regex" => some .input
  | "metadata_exists" | "metadata_equals" | "metadata_in" => (whenText c.key).map .metadata
  | "state_equals" => (whenText c.key).map .state
  | "tool_arg_equals" => (whenText c.key).map .toolArg
  | _ => none

/-- The signals that the conditions of an expression name. -/
def Expression.signals (e : Expression) : List Signal := e.conditions.filterMap Condition.signal?

/-- The signals that the expression of an experience names. -/
def Experience.signals (x : Experience) : List Signal := x.conditions.filterMap Condition.signal?

/-! ## Single conditions -/

namespace Condition
variable {c : Condition} {ctx ctx' : Context}

theorem prefixHolds_congr (h : ctx.input = ctx'.input) :
    c.prefixHolds ctx = c.prefixHolds ctx' := by
  simp only [prefixHolds, h]

theorem patternOutcome_congr (limit : Nat) (h : ctx.input = ctx'.input) :
    c.patternOutcome limit ctx = c.patternOutcome limit ctx' := by
  simp only [patternOutcome, h]

section Metadata
variable (h : ∀ key, whenText c.key = some key → ctx.metadataValue key = ctx'.metadataValue key)
include h

theorem metadataExists_congr : c.metadataExists ctx = c.metadataExists ctx' := by
  unfold metadataExists
  split
  · next key hkey => rw [h key hkey]
  · rfl

theorem metadataEquals_congr : c.metadataEquals ctx = c.metadataEquals ctx' := by
  unfold metadataEquals
  split
  · next key hkey => rw [h key hkey]
  · rfl

theorem metadataAmong_congr : c.metadataAmong ctx = c.metadataAmong ctx' := by
  unfold metadataAmong
  split
  · next key hkey => rw [h key hkey]
  · rfl

end Metadata

theorem stateOutcome_congr
    (h : ∀ key, whenText c.key = some key → ctx.stateValue key = ctx'.stateValue key) :
    c.stateOutcome ctx = c.stateOutcome ctx' := by
  unfold stateOutcome
  split
  · next key hkey => rw [h key hkey]
  · rfl

theorem toolArgEquals_congr
    (h : ∀ key, whenText c.key = some key → ctx.toolArg key = ctx'.toolArg key) :
    c.toolArgEquals ctx = c.toolArgEquals ctx' := by
  unfold toolArgEquals
  split
  · next key hkey => rw [h key hkey]
  · rfl

end Condition

namespace Registry
variable {c : Condition} {ctx ctx' : Context} {m : Matcher} {config : Config}

/-- A built-in matcher cannot tell apart contexts that agree on the signal of the condition. -/
theorem run_eq_of_agrees (hm : m ∈ builtIns config) (hkind : m.kind = c.kind)
    (h : ∀ σ ∈ c.signal?, σ.Agrees ctx ctx') : m.run c ctx = m.run c ctx' := by
  unfold Condition.signal? at h
  simp only [builtIns, List.mem_cons, List.not_mem_nil, or_false] at hm
  -- the kind of each matcher says which signal a condition of that kind names
  rcases hm with rfl | rfl | rfl | rfl | rfl | rfl | rfl <;>
    simp only [← hkind, Option.mem_def, Option.map_eq_some_iff, Option.some.injEq,
      forall_eq', forall_exists_index, and_imp, forall_apply_eq_imp_iff₂, Signal.Agrees] at h
  · exact congrArg Outcome.decided (Condition.prefixHolds_congr h)
  · exact Condition.patternOutcome_congr config.regexSizeLimit h
  · exact congrArg Outcome.decided (Condition.metadataExists_congr h)
  · exact congrArg Outcome.decided (Condition.metadataEquals_congr h)
  · exact congrArg Outcome.decided (Condition.metadataAmong_congr h)
  · exact Condition.stateOutcome_congr h
  · exact congrArg Outcome.decided (Condition.toolArgEquals_congr h)

/-- Without matchers of the host, contexts that agree on the signal of a condition decide it
alike. -/
theorem decide_eq_of_agrees (config : Config) (h : ∀ σ ∈ c.signal?, σ.Agrees ctx ctx') :
    (build [] config).result.decide ctx c = (build [] config).result.decide ctx' c := by
  cases ht : hasText c.kind with
  | false => rw [decide_of_blank _ ctx ht, decide_of_blank _ ctx' ht]
  | true =>
    cases hm : (build [] config).result.get? c.kind with
    | none => rw [decide_of_unknown ctx ht hm, decide_of_unknown ctx' ht hm]
    | some m =>
      -- nothing was registered by the host, so the matcher is a built-in one
      have hfind : (builtIns config).find? (fun m => m.kind == c.kind) = some m := by
        rw [get?_build] at hm
        simpa [lastCustom?, builtIn?] using hm
      have hbeq := List.find?_some hfind
      have hkind : m.kind = c.kind := eq_of_beq hbeq
      have hrun := run_eq_of_agrees (List.mem_of_find?_eq_some hfind) hkind h
      rw [decide_of_registered ctx ht hm, decide_of_registered ctx' ht hm, hrun]

end Registry

/-! ## Contexts that differ elsewhere -/

namespace Signal
variable {σ : Signal} {ctx : Context} {key : String}

theorem agrees_messages (σ : Signal) (ctx : Context) (messages : List Message) :
    σ.Agrees { ctx with messages } ctx := by
  cases σ <;> rfl

/-- Metadata under another key than the one that is looked at do not matter. -/
theorem agrees_withMetadata (v : Value) (hne : σ ≠ .metadata key) :
    σ.Agrees (ctx.withMetadata key v) ctx := by
  cases σ with
  | metadata k =>
    have hk : key ≠ k := fun h => hne (h ▸ rfl)
    exact (Fields.get?_put key k v ctx.metadata).trans (if_neg hk)
  | input => rfl
  | state k => rfl
  | toolArg k => rfl

/-- Tool arguments under another key than the one that is looked at do not matter. -/
theorem agrees_withToolArg (v : Value) (hne : σ ≠ .toolArg key) :
    σ.Agrees (ctx.withToolArg key v) ctx := by
  cases σ with
  | toolArg k =>
    have hk : key ≠ k := fun h => hne (h ▸ rfl)
    exact (Fields.get?_put key k v ctx.toolArgs).trans (if_neg hk)
  | input => rfl
  | metadata k => rfl
  | state k => rfl

/-- Of a state, nothing matters but the answers to the keys that are looked at. -/
theorem agrees_state {state : Option State}
    (h : ∀ key, σ = .state key →
      ({ ctx with state } : Context).stateValue key = ctx.stateValue key) :
    σ.Agrees { ctx with state } ctx := by
  cases σ with
  | state key => exact h key rfl
  | input => rfl
  | metadata key => rfl
  | toolArg key => rfl

end Signal

/-! ## Expressions and selections -/

namespace Selector
variable {r r' : Registry} {ctx ctx' : Context} {enabled : Bool} {candidates : List Experience}

/-- Selection depends only on how the conditions of the candidates are decided. -/
theorem selection_congr
    (h : ∀ x ∈ candidates, ∀ c ∈ x.conditions, r.decide ctx c = r'.decide ctx' c) :
    matching ⟨r, enabled⟩ ctx candidates = matching ⟨r', enabled⟩ ctx' candidates ∧
      best? ⟨r, enabled⟩ ctx candidates = best? ⟨r', enabled⟩ ctx' candidates := by
  -- where no kind is left out of account, being alike is being equal
  have halike : ∀ x ∈ candidates, ∀ c ∈ x.conditions,
      Traced.Alike (fun _ => False) (r.decide ctx c) (r'.decide ctx' c) := by
    intro x hx c hc
    rw [h x hx c hc]
    exact .refl _
  exact ⟨(alike_matching halike).eq, (alike_best? halike).eq⟩

end Selector

namespace Registry

theorem evaluate_eq_of_agrees (config : Config) {ctx ctx' : Context} {e : Expression}
    (h : ∀ σ ∈ e.signals, σ.Agrees ctx ctx') :
    (build [] config).result.evaluate ctx e = (build [] config).result.evaluate ctx' e := by
  refine Expression.evaluate_congr fun c hc => decide_eq_of_agrees config fun σ hσ => ?_
  exact h σ (List.mem_filterMap.mpr ⟨c, hc, hσ⟩)

/-- **Nothing but what is named has an influence.**  Let there be no matchers of the host.  In two
contexts that agree on the signals that an expression names, it evaluates to the same, with the
same calls and events on the way.  So the messages never matter, nor do metadata and tool arguments
under keys that are not named, nor what a state is apart from its answers to the keys that are.
Candidates whose expressions name only signals that two contexts agree on give the same matches
and the same selection in both. -/
theorem noninterference (config : Config) :
    let r := (build [] config).result
    (∀ ctx ctx' e, (∀ σ ∈ e.signals, σ.Agrees ctx ctx') → r.evaluate ctx e = r.evaluate ctx' e) ∧
    (∀ ctx e,
      (∀ messages, r.evaluate { ctx with messages } e = r.evaluate ctx e) ∧
      (∀ key v, .metadata key ∉ e.signals →
        r.evaluate (ctx.withMetadata key v) e = r.evaluate ctx e) ∧
      (∀ key v, .toolArg key ∉ e.signals →
        r.evaluate (ctx.withToolArg key v) e = r.evaluate ctx e) ∧
      ∀ state, (∀ key, .state key ∈ e.signals →
          ({ ctx with state } : Context).stateValue key = ctx.stateValue key) →
        r.evaluate { ctx with state } e = r.evaluate ctx e) ∧
    ∀ enabled ctx ctx' candidates, (∀ x ∈ candidates, ∀ σ ∈ x.signals, σ.Agrees ctx ctx') →
      Selector.matching ⟨r, enabled⟩ ctx candidates =
        Selector.matching ⟨r, enabled⟩ ctx' candidates ∧
      Selector.best? ⟨r, enabled⟩ ctx candidates =
        Selector.best? ⟨r, enabled⟩ ctx' candidates := by
  intro r
  refine ⟨fun ctx ctx' e => evaluate_eq_of_agrees config, fun ctx e => ⟨?_, ?_, ?_, ?_⟩, ?_⟩
  · intro messages
    exact evaluate_eq_of_agrees config fun σ _ => σ.agrees_messages ctx messages
  · intro key v hnot
    refine evaluate_eq_of_agrees config fun σ hσ => Signal.agrees_withMetadata v ?_
    rintro rfl
    exact hnot hσ
  · intro key v hnot
    refine evaluate_eq_of_agrees config fun σ hσ => Signal.agrees_withToolArg v ?_
    rintro rfl
    exact hnot hσ
  · intro state hstate
    refine evaluate_eq_of_agrees config fun σ hσ => Signal.agrees_state ?_
    rintro key rfl
    exact hstate key hσ
  · intro enabled ctx ctx' candidates h
    refine Selector.selection_congr fun x hx c hc => decide_eq_of_agrees config fun σ hσ => ?_
    exact h x hx σ (List.mem_filterMap.mpr ⟨c, hc, hσ⟩)

/-! ### Two turns that differ in what is not named -/

namespace TwoTurns

def expression : Expression := .allOf [
  .not (.condition { kind := "state_equals", key := some "stage", value := some "done" }),
  .condition { kind := "metadata_in", key := some "lang", values := ["en"] }]

/-- A state that crashes on every key. -/
def first : Context :=
  { input := some "hi", metadata := [("lang", .string "en")]
    state := some ⟨fun _ => .crashed ⟨some "gone"⟩⟩ }

/-- A state that crashes on the key that the expression names, and has nothing else. -/
def second : Context :=
  { messages := [⟨.user, "bye"⟩], metadata := [("lang", .string "en"), ("tier", .null)]
    state := some ⟨fun key => if key = "stage" then .crashed ⟨some "gone"⟩ else .absent⟩ }

def candidate : Experience := { id := "a", fastIntent := some (.ofExpression expression) }

end TwoTurns

open TwoTurns in
/-- In both turns the expression is true, after a warning about the state, and its experience is
selected. -/
theorem noninterference_twoTurns :
    let r := (build [] {}).result
    (∀ σ ∈ expression.signals, σ.Agrees first second) ∧
    r.evaluate first expression = r.evaluate second expression ∧
    (r.evaluate second expression).result = true ∧
    Selector.best? ⟨r, true⟩ first [candidate] = Selector.best? ⟨r, true⟩ second [candidate] := by
  have hagrees : ∀ σ ∈ expression.signals, σ.Agrees first second := by
    intro σ hσ
    have hnamed : expression.signals = [.state "stage", .metadata "lang"] := by rfl
    rw [hnamed, List.mem_cons, List.mem_singleton] at hσ
    rcases hσ with rfl | rfl <;> rfl
  obtain ⟨hsame, -, hselection⟩ := noninterference {}
  refine ⟨hagrees, hsame first second expression hagrees, rfl, ?_⟩
  refine (hselection true first second [candidate] fun x hx => ?_).2
  rw [List.mem_singleton.mp hx]
  exact hagrees

end Registry

end IntentSelect
