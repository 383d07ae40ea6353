import IntentSelect.Proofs.StrongestScan
import IntentSelect.Selector
import Mathlib.Data.List.Nodup

/-! # Survivors of a selection

A candidate survives if its fast-intent part is there and enabled and its
expression evaluates to true (`Selector.Survives`).  The survivors that a selector
computes are the candidates that survive, in their order, and what it selects is
the strongest of them (`result_best?`).  So the invariant of the scan becomes a
statement about candidates: `Selector.Leader` says where a selected experience
stands among them, and how it reaches the others.
-/
namespace IntentSelect.Selector
open Experience

variable {s : Selector} {ctx : Context} {candidates : List Experience} {c e m w : Experience}

/-- A candidate survives: its fast-intent part is there and enabled, and its
expression evaluates to true. -/
def Survives (s : Selector) (ctx : Context) (e : Experience) : Prop :=
  ∃ f x, e.fastIntent = some f ∧ f.enabled = true ∧ f.expression = some x ∧
    (s.registry.evaluate ctx x).result = true

theorem result_survives_iff : (s.survives ctx e).result = true ↔ s.Survives ctx e := by
  cases hf : e.fastIntent with
  | none => simp [survives, Survives, hf]
  | some f =>
    cases hen : f.enabled with
    | false => simp [survives, Survives, hf, hen]
    | true =>
      cases hx : f.expression <;>
        simp [survives, Survives, holds, Registry.holds, hf, hen, hx]

/-- The survivors are computed as a filter. -/
theorem result_survivors (s : Selector) (ctx : Context) (candidates : List Experience) :
    (s.survivors ctx candidates).result =
      candidates.filter fun e => (s.survives ctx e).result := by
  induction candidates with
  | nil => rfl
  | cons e es ih =>
    simp only [survivors, Traced.result_bind, Traced.result_pure, ih, List.filter_cons]

theorem mem_survivors :
    c ∈ (s.survivors ctx candidates).result ↔ c ∈ candidates ∧ s.Survives ctx c := by
  rw [result_survivors, List.mem_filter, result_survives_iff]

/-- What is selected is the strongest of the survivors. -/
theorem result_best? (hs : s.enabled = true) (ctx : Context) (candidates : List Experience) :
    (s.best? ctx candidates).result = strongest? (s.survivors ctx candidates).result := by
  simp [best?, matching, hs]

theorem enabled_of_best? (h : (s.best? ctx candidates).result = some w) : s.enabled = true := by
  cases hs : s.enabled with
  | true => rfl
  | false => simp [best?, hs] at h

theorem best?_eq_none_iff (hs : s.enabled = true) :
    (s.best? ctx candidates).result = none ↔ ∀ c ∈ candidates, ¬ s.Survives ctx c := by
  rw [result_best? hs, strongest?_eq_none_iff, List.eq_nil_iff_forall_not_mem]
  simp only [mem_survivors, not_and]

/-! ## The selected experience among the candidates -/

/-- How a selected experience stands among the candidates. -/
structure Leader (s : Selector) (ctx : Context) (candidates : List Experience)
    (w : Experience) : Prop where
  survives : s.Survives ctx w
  /-- It has its place: ahead of what would be selected of the candidates before
  it, and not behind any survivor after it. -/
  placed : ∃ before after, candidates = before ++ w :: after ∧
    (∀ b, (s.best? ctx before).result = some b → w.compareRank b = .lt) ∧
    ∀ c ∈ after, s.Survives ctx c → c.compareRank w ≠ .lt
  /-- It reaches every survivor through survivors. -/
  reaches : ∀ c ∈ candidates, s.Survives ctx c →
    Reaches (fun e => e ∈ candidates ∧ s.Survives ctx e) w c

/-- A place in the result of a filter is a place in the list. -/
theorem exists_split_of_filter {α : Type} {p : α → Bool} {l before after : List α} {x : α}
    (h : l.filter p = before ++ x :: after) :
    ∃ before' after', l = before' ++ x :: after' ∧
      before'.filter p = before ∧ after'.filter p = after := by
  obtain ⟨l₁, l₂, rfl, hl₁, hl₂⟩ := List.filter_eq_append_iff.mp h
  obtain ⟨m₁, m₂, rfl, hm₁, hx, hm₂⟩ := List.filter_eq_cons_iff.mp hl₂
  refine ⟨l₁ ++ m₁, m₂, by simp, ?_, hm₂⟩
  rw [List.filter_append, hl₁, List.filter_eq_nil_iff.mpr hm₁, List.append_nil]

theorem leader_of_best? (h : (s.best? ctx candidates).result = some w) :
    s.Leader ctx candidates w := by
  have hs := enabled_of_best? h
  have hlead := leads_of_strongest? ((result_best? hs ctx candidates).symm.trans h)
  have hmem := hlead.mem
  obtain ⟨before, after, hsplit, hbefore, hafter⟩ := hlead.placed
  rw [result_survivors] at hsplit
  obtain ⟨before', after', hcandidates, rfl, rfl⟩ := exists_split_of_filter hsplit
  refine ⟨(mem_survivors.mp hmem).2, ⟨before', after', hcandidates, ?_, ?_⟩, ?_⟩
  · intro b hb
    rw [result_best? hs, result_survivors] at hb
    exact hbefore b hb
  · intro c hc hsurv
    exact hafter c (List.mem_filter.mpr ⟨hc, result_survives_iff.mpr hsurv⟩)
  · intro c hc hsurv
    have hreach := hlead.reaches c (mem_survivors.mpr ⟨hc, hsurv⟩)
    exact hreach.mono fun x hx => mem_survivors.mp hx

namespace Leader

theorem mem (h : s.Leader ctx candidates w) : w ∈ candidates := by
  obtain ⟨before, after, rfl, -, -⟩ := h.placed
  simp

/-- No survivor has a higher priority than the leader. -/
theorem priority_le (h : s.Leader ctx candidates w) (hc : c ∈ candidates)
    (hsurv : s.Survives ctx c) : c.priority ≤ w.priority :=
  (h.reaches c hc hsurv).priority_le

/-- A survivor that is ahead of all others is the leader. -/
theorem eq_of_ahead (h : s.Leader ctx candidates w) (hm : m ∈ candidates)
    (hsurv : s.Survives ctx m)
    (hahead : ∀ c ∈ candidates, s.Survives ctx c → c ≠ m → m.compareRank c = .lt) : w = m :=
  (h.reaches m hm hsurv).eq_of_ahead fun x hx => hahead x hx.1 hx.2

end Leader

/-! ## Candidates with different ids

From here on no two candidates have the same id, so of two of them one is always
ahead. -/

/-- Some survivor is ahead of `w`. -/
def Outranked (s : Selector) (ctx : Context) (candidates : List Experience)
    (w : Experience) : Prop :=
  ∃ c ∈ candidates, s.Survives ctx c ∧ c.compareRank w = .lt

/-- A survivor has the highest priority of all survivors. -/
def HasTopPriority (s : Selector) (ctx : Context) (candidates : List Experience)
    (c : Experience) : Prop :=
  c ∈ candidates ∧ s.Survives ctx c ∧
    ∀ d ∈ candidates, s.Survives ctx d → d.priority ≤ c.priority

section DifferentIds
variable (hids : (candidates.map Experience.id).Nodup)
include hids

theorem ahead_of_not_outranked (hm : m ∈ candidates) (hnot : ¬ s.Outranked ctx candidates m) :
    ∀ c ∈ candidates, s.Survives ctx c → c ≠ m → m.compareRank c = .lt := by
  intro c hc hsurv hne
  refine compareRank_eq_lt_of_id_ne ?_ fun hlt => hnot ⟨c, hc, hsurv, hlt⟩
  exact fun hid => hne (List.inj_on_of_nodup_map hids hc hm hid.symm)

namespace Leader

/-- If something is ahead of the leader, the leader is part of a rotation. -/
theorem exists_rotation (h : s.Leader ctx candidates w) (hout : s.Outranked ctx candidates w) :
    ∃ x ∈ candidates, ∃ y ∈ candidates,
      s.Survives ctx x ∧ s.Survives ctx y ∧ Rotation w x y := by
  obtain ⟨c, hc, hsurv, hlt⟩ := hout
  obtain ⟨x, y, ⟨hx, hxs⟩, ⟨hy, hys⟩, hrot⟩ := (h.reaches c hc hsurv).exists_rotation
    (fun _ _ hx hy hid => List.inj_on_of_nodup_map hids hx.1 hy.1 hid) hlt
  exact ⟨x, hx, y, hy, hxs, hys, hrot⟩

/-- If something is ahead of the leader, something is ahead of every survivor. -/
theorem all_outranked (h : s.Leader ctx candidates w) (hout : s.Outranked ctx candidates w)
    (hm : m ∈ candidates) (hsurv : s.Survives ctx m) : s.Outranked ctx candidates m := by
  apply Classical.byContradiction
  intro hnot
  have hwm := h.eq_of_ahead hm hsurv (ahead_of_not_outranked hids hm hnot)
  exact hnot (hwm ▸ hout)

/-- Nothing is ahead of the leader if the survivors of the highest priority all
have a time, or all have none. -/
theorem not_outranked_of_uniform (h : s.Leader ctx candidates w)
    (huniform : (∀ c, s.HasTopPriority ctx candidates c → c.updatedAt.isSome) ∨
      ∀ c, s.HasTopPriority ctx candidates c → c.updatedAt = none) :
    ¬ s.Outranked ctx candidates w := by
  intro hout
  obtain ⟨x, hx, y, hy, hxs, hys, hrot⟩ := h.exists_rotation hids hout
  obtain ⟨hpx, hpy⟩ := hrot.priority_eq
  have top : ∀ z ∈ candidates, s.Survives ctx z → z.priority = w.priority →
      s.HasTopPriority ctx candidates z :=
    fun z hz hzs hp => ⟨hz, hzs, fun d hd hds => hp ▸ h.priority_le hd hds⟩
  -- one of the three has no time and two have one, which neither case allows
  have hone := hrot.one_untimed
  rcases huniform with hall | hall
  · have hw := hall w (top w h.mem h.survives rfl)
    have hx' := hall x (top x hx hxs hpx)
    have hy' := hall y (top y hy hys hpy)
    simp [Option.isNone_eq_false_iff.mpr hw, Option.isNone_eq_false_iff.mpr hx',
      Option.isNone_eq_false_iff.mpr hy'] at hone
  · have hw := hall w (top w h.mem h.survives rfl)
    have hx' := hall x (top x hx hxs hpx)
    simp [hw, hx', List.countP_cons] at hone

end Leader

end DifferentIds

end IntentSelect.Selector
