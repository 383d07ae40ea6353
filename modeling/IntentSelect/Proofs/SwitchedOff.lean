import IntentSelect.Selector

/-! # Selectors that are switched off

A configuration may switch its selector off.  Then nothing should match any more, whatever the
selector is asked and however often, and no matcher should be called for it
(`Selector.SilentFor`).  Two of the three questions that a selector can be asked heed the switch:
which candidates match, and which of them is selected.  The third, whether an expression holds, does
not look at it, and is answered by the registry as ever (`ask_holds`).

A session is silent exactly if each of its questions is (`silentFor_iff`).  So a selector that is
switched off is silent as long as it is asked about candidates only, and in any session as far as
the expressions that it is asked about are false without a call (`silentFor_of_switchedOff`).
-/
namespace IntentSelect

/-- What a selector may be asked. -/
inductive Query where
  | holds (ctx : Context) (e : Option Expression)
  | matching (ctx : Context) (candidates : List Experience)
  | best (ctx : Context) (candidates : List Experience)

/-- The answer to a question. -/
inductive Reply where
  | holds (b : Bool)
  | matching (es : List Experience)
  | best (e? : Option Experience)

/-- True if nothing matches. -/
def Reply.isNoMatch : Reply → Bool
  | .holds b => !b
  | .matching es => es.isEmpty
  | .best e? => e?.isNone

/-- True for the questions about candidates. -/
def Query.isSelection : Query → Bool
  | .holds .. => false
  | .matching .. => true
  | .best .. => true

namespace Selector
variable {s : Selector} {ctx : Context} {e : Option Expression} {q : Query} {qs : List Query}

/-- Asks a selector one question. -/
def ask (s : Selector) : Query → Traced Reply
  | .holds ctx e => Reply.holds <$> s.holds ctx e
  | .matching ctx candidates => Reply.matching <$> s.matching ctx candidates
  | .best ctx candidates => Reply.best <$> s.best? ctx candidates

/-- Asks a selector one question after the other. -/
def askAll (s : Selector) : List Query → Traced (List Reply)
  | [] => return []
  | q :: qs => do
    let reply ← s.ask q
    let replies ← askAll s qs
    return reply :: replies

/-- In a whole session no matcher is called, and every answer is that nothing matches. -/
def SilentFor (s : Selector) (qs : List Query) : Prop :=
  (s.askAll qs).calls = [] ∧ ∀ reply ∈ (s.askAll qs).result, reply.isNoMatch = true

/-! ## From questions to sessions -/

/-- A session is silent if each of its questions is. -/
theorem silentFor_iff : s.SilentFor qs ↔
    ∀ q ∈ qs, (s.ask q).calls = [] ∧ (s.ask q).result.isNoMatch = true := by
  induction qs with
  | nil => simp [SilentFor, askAll, Traced.calls]
  | cons q qs ih =>
    have hcalls : (s.askAll (q :: qs)).calls = (s.ask q).calls ++ (s.askAll qs).calls := by
      simp [askAll, Traced.calls]
    have hresult : (s.askAll (q :: qs)).result = (s.ask q).result :: (s.askAll qs).result := rfl
    rw [List.forall_mem_cons, ← ih]
    unfold SilentFor
    rw [hcalls, hresult, List.append_eq_nil_iff, List.forall_mem_cons]
    exact and_and_and_comm

/-! ## The switch -/

theorem enabled_build (custom : List Matcher) (config : Config) :
    (build custom config).result.enabled = config.enabled :=
  rfl

/-- A question about candidates is not looked into by a selector that is switched off. -/
theorem ask_of_isSelection (hs : s.enabled = false) (hq : q.isSelection = true) :
    (s.ask q).calls = [] ∧ (s.ask q).result.isNoMatch = true := by
  cases q with
  | holds ctx e => cases hq
  | matching ctx candidates =>
    simp [ask, matching, hs, Traced.calls, Reply.isNoMatch]
  | best ctx candidates =>
    simp [ask, best?, hs, Traced.calls, Traced.log, Traced.step, Step.call?, Reply.isNoMatch]

/-- A question about an expression is answered by the registry. -/
theorem ask_holds : (s.ask (.holds ctx e)).calls = [] ∧
      (s.ask (.holds ctx e)).result.isNoMatch = true ↔
    (s.registry.holds ctx e).calls = [] ∧ (s.registry.holds ctx e).result = false := by
  simp [ask, holds, Traced.calls, Reply.isNoMatch]

/-- **A selector that is switched off.**  It is silent in every session in which it is asked about
candidates only.  In an arbitrary session it is silent exactly if its registry finds the expressions
that it is asked about false without calling a matcher: whether an expression holds is decided as if
the selector were switched on. -/
theorem silentFor_of_switchedOff (custom : List Matcher) {config : Config}
    (h : config.enabled = false) (qs : List Query) :
    let s := (build custom config).result
    ((∀ q ∈ qs, q.isSelection = true) → s.SilentFor qs) ∧
    (s.SilentFor qs ↔ ∀ ctx e, .holds ctx e ∈ qs →
      (s.registry.holds ctx e).calls = [] ∧ (s.registry.holds ctx e).result = false) ∧
    ∀ ctx e, s.holds ctx e = (build custom { config with enabled := true }).result.holds ctx e := by
  intro s
  have hs : s.enabled = false := (enabled_build custom config).trans h
  refine ⟨fun hqs => ?_, ?_, fun ctx e => rfl⟩
  · exact silentFor_iff.mpr fun q hq => ask_of_isSelection hs (hqs q hq)
  · rw [silentFor_iff]
    constructor
    · intro hsilent ctx e hmem
      exact ask_holds.mp (hsilent _ hmem)
    · intro hholds q hq
      cases q with
      | holds ctx e => exact ask_holds.mpr (hholds ctx e hq)
      | matching ctx candidates => exact ask_of_isSelection hs rfl
      | best ctx candidates => exact ask_of_isSelection hs rfl

/-! ### A greeting while switched off -/

namespace Greeting

def condition : Condition := { kind := "message_prefix", value := some "h" }

def context : Context := { input := some "hi" }

def candidate : Experience := { id := "a", fastIntent := some (.ofExpression (.condition condition)) }

end Greeting

open Greeting in
/-- The candidate would match, but is not looked into. -/
theorem silentFor_of_switchedOff_greeting :
    Config.disabled.enabled = false ∧
    (build [] Config.disabled).result.SilentFor
      [.best context [candidate], .matching context [candidate], .holds context none] := by
  have hregistry := (@silentFor_of_switchedOff [] .disabled rfl
    [.best context [candidate], .matching context [candidate], .holds context none]).2.1
  refine ⟨rfl, hregistry.mpr fun ctx e hmem => ?_⟩
  simp only [List.mem_cons, reduceCtorEq, Query.holds.injEq, List.not_mem_nil, or_false,
    false_or] at hmem
  obtain ⟨rfl, rfl⟩ := hmem
  exact ⟨rfl, rfl⟩

open Greeting in
/-- Asked whether an expression holds, a selector that is switched off calls the matcher and says
that it does, so it is not silent in every session. -/
theorem not_silentFor_greeting :
    let s := (build [] Config.disabled).result
    s.enabled = false ∧
    (s.holds context (some (.condition condition))).result = true ∧
    (s.holds context (some (.condition condition))).calls = [("message_prefix", condition)] ∧
    ¬ ∀ qs, s.SilentFor qs := by
  intro s
  have hcalls : (s.holds context (some (.condition condition))).calls =
      [("message_prefix", condition)] := by rfl
  refine ⟨rfl, by rfl, hcalls, fun hsilent => ?_⟩
  have hquiet := silentFor_iff.mp (hsilent [.holds context (some (.condition condition))]) _
    List.mem_cons_self
  have hnone : (s.holds context (some (.condition condition))).calls = [] := (ask_holds.mp hquiet).1
  rw [hcalls] at hnone
  cases hnone

end Selector

end IntentSelect
