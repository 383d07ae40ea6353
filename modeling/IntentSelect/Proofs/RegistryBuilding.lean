import IntentSelect.Proofs.FailureIsolation
import IntentSelect.Proofs.KeyOrder
import Mathlib.Data.List.Induction

/-! # What is in a registry

A registry is built in two rounds with different rules.  The matchers of the host overwrite:
of several for one kind the last one stays, and those with a blank kind do not count
(`lastCustom?`).  The built-in matchers only fill in: each takes its kind if the host has
left it free.  `get?_build` says what comes of both rounds, without following either.

What is reported on the way can be told from the lists alone as well: `customEvents` goes
by what stands earlier in the list of the host, `builtInEvents` by what the host has taken
(`trace_build`).

Since a registry is determined by its look-ups (`eq_of_get?_eq`), the order of matchers for
different kinds cannot matter, and an expression does not notice a matcher for a kind that
it does not mention (`build_registers`).
-/
namespace IntentSelect

open Json Text

/-! ## Evaluations that agree -/

theorem Traced.Alike.eq {α : Type} {t u : Traced α} (h : Alike (fun _ => False) t u) : t = u := by
  refine Traced.ext h.result ?_
  have hall : ∀ v : Traced α, v.outside (fun _ => False) = v.trace := by
    intro v
    refine List.filter_eq_self.mpr fun s _ => ?_
    cases s.conditionKind? <;> rfl
  rw [← hall t, ← hall u, h.outside]

/-- An evaluation depends only on how the conditions of the expression are decided. -/
theorem Expression.evaluate_congr {e : Expression} {d d' : Condition → Traced Bool}
    (h : ∀ c ∈ e.conditions, d c = d' c) : e.evaluate d = e.evaluate d' := by
  refine (alike_evaluate fun c hc => ?_ : Traced.Alike (fun _ => False) _ _).eq
  rw [h c hc]
  exact .refl _

namespace Registry
variable {r r' : Registry} {m : Matcher} {custom custom' bs : List Matcher} {config : Config}
  {kind : String}

/-! ## Look-ups -/

theorem contains_iff_mem_kinds : r.contains kind = true ↔ kind ∈ r.kinds :=
  Fields.isSome_get?_iff

/-- The kinds of a registry ascend. -/
def Ordered (r : Registry) : Prop := r.kinds.Pairwise (· < ·)

theorem Ordered.put (h : r.Ordered) (m : Matcher) : (r.put m).Ordered := by
  have hmatchers : Fields.Ascending r.matchers := h
  exact Fields.ascending_put hmatchers

/-- A registry is determined by its look-ups. -/
theorem eq_of_get?_eq (h : r.Ordered) (h' : r'.Ordered)
    (hget : ∀ kind, r.get? kind = r'.get? kind) : r = r' := by
  cases r
  cases r'
  exact congrArg Registry.mk (Fields.Ascending.eq_of_get?_eq h h' hget)

/-! ## The matchers of the host -/

/-- The last matcher of the host for a kind, if the kind is not blank. -/
def lastCustom? (kind : String) (custom : List Matcher) : Option Matcher :=
  if hasText kind then (custom.filter fun m => m.kind == kind).getLast? else none

/-- What is reported of a matcher of the host that comes after others. -/
def customEvent? (before : List Matcher) (m : Matcher) : Option Event :=
  if hasText m.kind then
    if before.any fun b => b.kind == m.kind then some (.matcherReplaced m.kind) else none
  else some .blankKindIgnored

/-- What is reported of the matchers of the host, in their order. -/
def customEvents (custom : List Matcher) : List Event :=
  (List.range custom.length).filterMap fun i => custom[i]?.bind (customEvent? (custom.take i))

theorem lastCustom?_concat (kind : String) (custom : List Matcher) (m : Matcher) :
    lastCustom? kind (custom ++ [m]) =
      if hasText m.kind = true ∧ m.kind = kind then some m else lastCustom? kind custom := by
  unfold lastCustom?
  rw [List.filter_append]
  by_cases hkind : m.kind = kind
  · subst hkind
    by_cases ht : hasText m.kind = true <;> simp [ht]
  · simp [hkind]

theorem isSome_lastCustom?_iff (ht : hasText kind = true) :
    (lastCustom? kind custom).isSome = true ↔ custom.any (fun m => m.kind == kind) = true := by
  rw [lastCustom?, if_pos ht, List.getLast?_isSome, ne_eq, List.filter_eq_nil_iff, List.any_eq_true]
  simp only [not_forall, not_not, exists_prop]

theorem customEvents_concat (custom : List Matcher) (m : Matcher) :
    customEvents (custom ++ [m]) = customEvents custom ++ (customEvent? custom m).toList := by
  unfold customEvents
  rw [List.length_append, List.length_singleton, List.range_succ, List.filterMap_append]
  congr 1
  · -- the places before the last one see nothing of it
    refine List.filterMap_congr fun i hi => ?_
    have hlt := List.mem_range.mp hi
    rw [List.getElem?_append_left hlt, List.take_append_of_le_length (Nat.le_of_lt hlt)]
  · have hlast : (custom ++ [m])[custom.length]? = some m := by simp
    simp only [List.filterMap_cons, List.filterMap_nil, hlast, List.take_left, Option.bind_some]
    cases customEvent? custom m <;> rfl

theorem result_putCustom (r : Registry) (m : Matcher) :
    (r.putCustom m).result = if hasText m.kind then r.put m else r := by
  unfold putCustom
  split
  · split <;> rfl
  · rfl

theorem trace_putCustom (r : Registry) (m : Matcher) :
    (r.putCustom m).trace = if hasText m.kind then
      if r.contains m.kind then [.log (.matcherReplaced m.kind)] else []
      else [.log .blankKindIgnored] := by
  unfold putCustom
  split
  · split <;> rfl
  · rfl

theorem foldlM_concat (custom : List Matcher) (m : Matcher) :
    (custom ++ [m]).foldlM putCustom empty = custom.foldlM putCustom empty >>= (putCustom · m) := by
  rw [List.foldlM_append]
  exact bind_congr fun r => bind_pure _

theorem ordered_foldlM_putCustom (custom : List Matcher) :
    (custom.foldlM putCustom empty).result.Ordered := by
  induction custom using List.reverseRecOn with
  | nil => exact Fields.ascending_nil
  | append_singleton custom m ih =>
    rw [foldlM_concat, Traced.result_bind, result_putCustom]
    split
    · exact ih.put m
    · exact ih

/-- After the matchers of the host, a kind has the last one for it. -/
theorem get?_foldlM_putCustom (kind : String) (custom : List Matcher) :
    (custom.foldlM putCustom empty).result.get? kind = lastCustom? kind custom := by
  induction custom using List.reverseRecOn with
  | nil => simp [lastCustom?, empty, get?, Fields.get?]
  | append_singleton custom m ih =>
    rw [foldlM_concat, Traced.result_bind, result_putCustom, lastCustom?_concat, ← ih]
    by_cases ht : hasText m.kind = true
    · simp only [ht, if_true, true_and, get?_put]
    · simp [ht]

theorem contains_foldlM_putCustom (ht : hasText kind = true) :
    (custom.foldlM putCustom empty).result.contains kind = custom.any fun m => m.kind == kind := by
  rw [Bool.eq_iff_iff, contains, get?_foldlM_putCustom, isSome_lastCustom?_iff ht]

theorem trace_foldlM_putCustom (custom : List Matcher) :
    (custom.foldlM putCustom empty).trace = (customEvents custom).map .log := by
  induction custom using List.reverseRecOn with
  | nil => rfl
  | append_singleton custom m ih =>
    rw [foldlM_concat, Traced.trace_bind, ih, customEvents_concat, List.map_append, trace_putCustom]
    congr 1
    unfold customEvent?
    by_cases ht : hasText m.kind = true
    · rw [if_pos ht, if_pos ht, contains_foldlM_putCustom ht]
      split <;> rfl
    · rw [if_neg ht, if_neg ht]
      rfl

/-! ## The built-in matchers -/

/-- The built-in matcher for a kind. -/
def builtIn? (kind : String) (config : Config) : Option Matcher :=
  (builtIns config).find? fun m => m.kind == kind

/-- What is reported of the built-in matchers: the host has taken their kinds. -/
def builtInEvents (custom : List Matcher) (config : Config) : List Event :=
  ((builtIns config).filter fun m => custom.any fun c => c.kind == m.kind).map fun m =>
    .builtInOverridden m.kind

theorem kinds_builtIns (config : Config) : (builtIns config).map Matcher.kind =
    ["message_prefix", "message_regex", "metadata_exists", "metadata_equals", "metadata_in",
      "state_equals", "tool_arg_equals"] :=
  rfl

theorem nodup_kinds_builtIns (config : Config) : ((builtIns config).map Matcher.kind).Nodup := by
  rw [kinds_builtIns]
  decide

theorem hasText_of_mem_builtIns (h : m ∈ builtIns config) : hasText m.kind = true := by
  have hkind : m.kind ∈ (builtIns config).map Matcher.kind := List.mem_map.mpr ⟨m, h, rfl⟩
  rw [kinds_builtIns] at hkind
  exact (by decide : ∀ kind ∈ _, hasText kind = true) _ hkind

theorem result_putBuiltIn (r : Registry) (m : Matcher) :
    (r.putBuiltIn m).result = if r.contains m.kind then r else r.put m := by
  unfold putBuiltIn
  split <;> rfl

theorem trace_putBuiltIn (r : Registry) (m : Matcher) :
    (r.putBuiltIn m).trace =
      if r.contains m.kind then [.log (.builtInOverridden m.kind)] else [] := by
  unfold putBuiltIn
  split <;> rfl

theorem ordered_foldlM_putBuiltIn (h : r.Ordered) (bs : List Matcher) :
    (bs.foldlM putBuiltIn r).result.Ordered := by
  induction bs generalizing r with
  | nil => exact h
  | cons b bs ih =>
    rw [List.foldlM_cons, Traced.result_bind, result_putBuiltIn]
    split
    · exact ih h
    · exact ih (h.put b)

/-- A matcher that only fills in leaves the other kinds alone. -/
theorem get?_putBuiltIn (r : Registry) (m : Matcher) (kind : String) :
    (r.putBuiltIn m).result.get? kind =
      (r.get? kind).or (if m.kind = kind then some m else none) := by
  rw [result_putBuiltIn, contains]
  by_cases hkind : m.kind = kind
  · subst hkind
    cases hm : r.get? m.kind <;> simp [hm, get?_put]
  · split <;> simp [hkind, get?_put]

/-- Of the matchers that only fill in, the first for a kind that is free gets it. -/
theorem get?_foldlM_putBuiltIn (r : Registry) (bs : List Matcher) (kind : String) :
    (bs.foldlM putBuiltIn r).result.get? kind =
      (r.get? kind).or (bs.find? fun m => m.kind == kind) := by
  induction bs generalizing r with
  | nil => simp
  | cons b bs ih =>
    rw [List.foldlM_cons, Traced.result_bind, ih, get?_putBuiltIn, Option.or_assoc]
    congr 1
    by_cases hkind : b.kind = kind <;> simp [hkind]

theorem trace_foldlM_putBuiltIn (r : Registry) (hnodup : (bs.map Matcher.kind).Nodup) :
    (bs.foldlM putBuiltIn r).trace =
      (bs.filter fun m => r.contains m.kind).map fun m => .log (.builtInOverridden m.kind) := by
  induction bs generalizing r with
  | nil => rfl
  | cons b bs ih =>
    obtain ⟨hnot, hrest⟩ := List.nodup_cons.mp hnodup
    -- the kinds that follow are other ones, so it does not matter whether `b` gets its kind
    have hsame : ∀ m ∈ bs, (r.putBuiltIn b).result.contains m.kind = r.contains m.kind := by
      intro m hm
      have hne : b.kind ≠ m.kind := fun h => hnot (h ▸ List.mem_map.mpr ⟨m, hm, rfl⟩)
      rw [contains, contains, get?_putBuiltIn, if_neg hne, Option.or_none]
    rw [List.foldlM_cons, Traced.trace_bind, ih _ hrest, List.filter_congr hsame, trace_putBuiltIn,
      List.filter_cons]
    split <;> rfl

/-! ## Whole registries -/

theorem ordered_build (custom : List Matcher) (config : Config) :
    (build custom config).result.Ordered := by
  rw [build, Traced.result_bind]
  exact ordered_foldlM_putBuiltIn (ordered_foldlM_putCustom custom) (builtIns config)

theorem get?_build (custom : List Matcher) (config : Config) (kind : String) :
    (build custom config).result.get? kind =
      (lastCustom? kind custom).or (builtIn? kind config) := by
  rw [build, Traced.result_bind, get?_foldlM_putBuiltIn, get?_foldlM_putCustom]
  rfl

theorem trace_build (custom : List Matcher) (config : Config) :
    (build custom config).trace =
      (customEvents custom ++ builtInEvents custom config).map .log := by
  rw [build, Traced.trace_bind, trace_foldlM_putCustom,
    trace_foldlM_putBuiltIn _ (nodup_kinds_builtIns config), List.map_append, builtInEvents,
    List.map_map]
  congr 2
  exact List.filter_congr fun m hm => contains_foldlM_putCustom (hasText_of_mem_builtIns hm)

/-- Matchers for different kinds may change places. -/
theorem build_eq_of_filter_eq (config : Config)
    (h : ∀ kind, custom'.filter (fun m => m.kind == kind) = custom.filter fun m => m.kind == kind) :
    (build custom' config).result = (build custom config).result := by
  refine eq_of_get?_eq (ordered_build custom' config) (ordered_build custom config) fun kind => ?_
  rw [get?_build, get?_build, lastCustom?, h, lastCustom?]

theorem get?_build_of_ne {before after : List Matcher} (config : Config) (h : m.kind ≠ kind) :
    (build (before ++ m :: after) config).result.get? kind =
      (build (before ++ after) config).result.get? kind := by
  simp [get?_build, lastCustom?, List.filter_append, h]

/-- **Building a registry.**  A kind that is not blank gets the last matcher of the host
for it; if the host has none, or the kind is blank, it gets the built-in matcher for it,
if there is one.  The kinds ascend and are those that have a matcher.  Nothing is done on
the way but to report, of the matchers of the host and then of the built-in ones, each
in their order: a warning for each blank kind, a note for each other kind that
stands earlier in the list, and a note for each built-in kind that the host has taken.

So the order of the host's matchers matters only among those for one kind, and one
more matcher is not noticed by expressions that do not mention its kind. -/
theorem build_registers (custom : List Matcher) (config : Config) :
    let r := (build custom config).result
    (∀ kind, r.get? kind = (lastCustom? kind custom).or (builtIn? kind config)) ∧
    r.kinds.Pairwise (· < ·) ∧
    (∀ kind, kind ∈ r.kinds ↔ ∃ m, r.get? kind = some m) ∧
    r.size = r.kinds.length ∧
    (build custom config).trace = (customEvents custom ++ builtInEvents custom config).map .log ∧
    (∀ custom', custom'.Perm custom →
      (∀ kind, custom'.filter (fun m => m.kind == kind) =
        custom.filter fun m => m.kind == kind) →
      ∀ ctx e, (build custom' config).result.evaluate ctx e = r.evaluate ctx e) ∧
    ∀ before m after, custom = before ++ after →
      ∀ ctx e, (∀ c ∈ e.conditions, c.kind ≠ m.kind) →
        (build (before ++ m :: after) config).result.evaluate ctx e = r.evaluate ctx e := by
  intro r
  refine ⟨get?_build custom config, ordered_build custom config, fun kind => ?_, ?_,
    trace_build custom config, ?_, ?_⟩
  · rw [← contains_iff_mem_kinds, contains, Option.isSome_iff_exists]
  · exact (List.length_map Prod.fst).symm
  · intro custom' _ hsame ctx e
    rw [build_eq_of_filter_eq config hsame]
  · rintro before m after rfl ctx e hnot
    refine Expression.evaluate_congr fun c hc => decide_congr ctx ?_
    exact get?_build_of_ne config (hnot c hc).symm

end Registry

end IntentSelect
