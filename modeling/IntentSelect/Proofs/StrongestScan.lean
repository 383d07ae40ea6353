import IntentSelect.Proofs.RankOrder
import Mathlib.Logic.Relation

/-! # What the scan for the strongest experience guarantees

`Experience.strongest?` goes through a list once and keeps the stronger of each
experience and the best so far.  Ranking is not transitive, so the best so far
need not be ahead of everything seen.  What the scan does keep, over any list, is
`Leads`: the best so far has its place in what was seen, ahead of the best before
it and not behind anything after it, and it reaches everything seen through a
chain of experiences none of which is behind the next.

Everything else follows from the chains.  Priorities never rise along a chain, so
the best has the highest one (`Reaches.priority_le`); no chain enters an experience
that is ahead of all others, so such an experience is the best wherever it stands
(`Reaches.eq_of_ahead`); and if something is ahead of the best, then the chain that
leads to it closes a rotation (`Reaches.exists_rotation`).
-/
namespace IntentSelect.Experience
variable {a b c e w m best : Experience} {es seen : List Experience}

/-! ## One step of the scan -/

theorem stronger_of_lt (h : e.compareRank best = .lt) : stronger best e = e := if_pos h

theorem stronger_of_not_lt (h : e.compareRank best ≠ .lt) : stronger best e = best := if_neg h

theorem strongest?_eq_none_iff : strongest? es = none ↔ es = [] := by
  cases es <;> simp [strongest?]

theorem strongest?_concat (h : strongest? seen = some best) (e : Experience) :
    strongest? (seen ++ [e]) = some (stronger best e) := by
  cases seen with
  | nil => cases h
  | cons d ds =>
    have hd : ds.foldl stronger d = best := Option.some.inj h
    simp [strongest?, hd]

/-! ## Chains -/

/-- `b` can be reached from `a` through experiences of `S` none of which is behind
the next. -/
def Reaches (S : Experience → Prop) : Experience → Experience → Prop :=
  Relation.ReflTransGen fun a b => S a ∧ S b ∧ a.compareRank b ≠ .gt

namespace Reaches
variable {S T : Experience → Prop}

theorem single (ha : S a) (hb : S b) (h : a.compareRank b ≠ .gt) : Reaches S a b :=
  Relation.ReflTransGen.single ⟨ha, hb, h⟩

theorem mono (hST : ∀ x, S x → T x) (h : Reaches S a b) : Reaches T a b := by
  induction h with
  | refl => exact Relation.ReflTransGen.refl
  | tail _ hstep ih => exact ih.tail ⟨hST _ hstep.1, hST _ hstep.2.1, hstep.2.2⟩

/-- Priorities do not rise along a chain. -/
theorem priority_le (h : Reaches S a b) : b.priority ≤ a.priority := by
  induction h with
  | refl => exact Int.le_refl _
  | tail _ hstep ih => exact Int.le_trans (priority_le_of_compareRank hstep.2.2) ih

/-- A chain to an experience that is ahead of all others starts there. -/
theorem eq_of_ahead (h : Reaches S a m) (hm : ∀ x, S x → x ≠ m → m.compareRank x = .lt) :
    a = m := by
  induction h using Relation.ReflTransGen.head_induction_on with
  | refl => rfl
  | @head x y hstep _ ih =>
    -- from the second of the chain on it stays at `m`, and nothing steps into `m`
    subst ih
    apply Classical.byContradiction
    intro hne
    exact hstep.2.2 (Std.OrientedCmp.gt_of_lt (hm x hstep.1 hne))

/-- If a chain from `a` ends ahead of `a`, it has two neighbours that form a
rotation with `a`, provided that different experiences have different ids. -/
theorem exists_rotation (hids : ∀ x y, S x → S y → x.id = y.id → x = y)
    (h : Reaches S a b) (hba : b.compareRank a = .lt) :
    ∃ x y, S x ∧ S y ∧ Rotation a x y := by
  induction h with
  | refl => exact absurd hba (Std.OrientedCmp.not_lt_of_lt hba)
  | @tail x y hax hstep ih =>
    obtain ⟨hx, hy, hxy⟩ := hstep
    by_cases hxa : x.compareRank a = .lt
    · exact ih hxa
    · -- `y` is the first of the chain that is ahead of `a`
      have hne : x ≠ y := fun he => hxa (he ▸ hba)
      have hxy' : x.compareRank y = .lt := by
        refine compareRank_eq_lt_of_id_ne (fun he => hne (hids x y hx hy he)) ?_
        exact fun hyx => hxy (Std.OrientedCmp.gt_of_lt hyx)
      have hax' : a ≠ x := by
        intro he
        subst he
        exact hxy (Std.OrientedCmp.gt_of_lt hba)
      have ha : S a := by
        rcases Relation.ReflTransGen.cases_head hax with he | ⟨z, hz, -⟩
        · exact absurd he hax'
        · exact hz.1
      exact ⟨x, y, hx, hy,
        compareRank_eq_lt_of_id_ne (fun he => hax' (hids a x ha hx he)) hxa, hxy', hba⟩

end Reaches

/-! ## The invariant of the scan -/

/-- What holds of the best so far once the experiences `seen` have been gone
through. -/
structure Leads (seen : List Experience) (best : Experience) : Prop where
  scanned : strongest? seen = some best
  /-- It has its place: ahead of the best before it, not behind anything after it. -/
  placed : ∃ before after, seen = before ++ best :: after ∧
    (∀ b, strongest? before = some b → best.compareRank b = .lt) ∧
    ∀ c ∈ after, c.compareRank best ≠ .lt
  reaches : ∀ c ∈ seen, Reaches (· ∈ seen) best c

namespace Leads

theorem mem (h : Leads seen best) : best ∈ seen := by
  obtain ⟨before, after, rfl, -, -⟩ := h.placed
  simp

theorem step (h : Leads seen best) (e : Experience) : Leads (seen ++ [e]) (stronger best e) := by
  have hmem : ∀ x, x ∈ seen → x ∈ seen ++ [e] := fun x hx => List.mem_append_left _ hx
  have hlast : e ∈ seen ++ [e] := by simp
  have hscan := strongest?_concat h.scanned e
  by_cases he : e.compareRank best = .lt
  · rw [stronger_of_lt he] at hscan ⊢
    refine ⟨hscan, ⟨seen, [], rfl, ?_, fun _ hc => (List.not_mem_nil hc).elim⟩, ?_⟩
    · intro b hb
      rw [h.scanned] at hb
      exact Option.some.inj hb ▸ he
    · intro c hc
      rcases List.mem_append.mp hc with hc | hc
      · have hstep : Reaches (· ∈ seen ++ [e]) e best :=
          Reaches.single hlast (hmem _ h.mem) (by rw [he]; decide)
        exact hstep.trans ((h.reaches c hc).mono hmem)
      · rw [List.mem_singleton.mp hc]
        exact Relation.ReflTransGen.refl
  · rw [stronger_of_not_lt he] at hscan ⊢
    refine ⟨hscan, ?_, ?_⟩
    · obtain ⟨before, after, rfl, hbefore, hafter⟩ := h.placed
      refine ⟨before, after ++ [e], by simp, hbefore, ?_⟩
      intro c hc
      rcases List.mem_append.mp hc with hc | hc
      · exact hafter c hc
      · rw [List.mem_singleton.mp hc]; exact he
    · intro c hc
      rcases List.mem_append.mp hc with hc | hc
      · exact (h.reaches c hc).mono hmem
      · rw [List.mem_singleton.mp hc]
        exact Reaches.single (hmem _ h.mem) hlast
          fun hgt => he (Std.OrientedCmp.gt_iff_lt.mp hgt)

theorem foldl (h : Leads seen best) (es : List Experience) :
    Leads (seen ++ es) (es.foldl stronger best) := by
  induction es generalizing seen best with
  | nil => simpa using h
  | cons e es ih => simpa using ih (h.step e)

theorem singleton (e : Experience) : Leads [e] e where
  scanned := rfl
  placed := ⟨[], [], rfl, fun _ hb => (Option.some_ne_none _ hb.symm).elim,
    fun _ hc => (List.not_mem_nil hc).elim⟩
  reaches c hc := by rw [List.mem_singleton.mp hc]; exact Relation.ReflTransGen.refl

end Leads

/-- **The invariant at the end of the scan.** -/
theorem leads_of_strongest? (h : strongest? es = some w) : Leads es w := by
  cases es with
  | nil => cases h
  | cons e es =>
    have hw : es.foldl stronger e = w := Option.some.inj h
    exact hw ▸ (Leads.singleton e).foldl es

end IntentSelect.Experience
