import IntentSelect.Proofs.BatchAddition
import IntentSelect.Proofs.ReloadedSelection

/-! # Catalogs that are saved and reloaded

A catalog is saved as one value, the array of its experiences, and reloaded by adding what the
array holds to an empty catalog.  Whatever calls have filled the catalog, the reload succeeds: each
experience is read back from its value, and the ids are still not blank and different from one
another.  What comes back is in normal form (`Catalog.Consistent.reload_saved`): the empty lists in
expressions are lost, which no selection notices, and a stray leap second has become the time that
is written for it, which can turn a selection round.

The arguments of a tool call are a map, listed in the order of its keys.  Those that are read are
always so listed, whatever the document looks like, and no update that is read is a stray leap
second (`Session.of_mem_toList`).  Experiences that are handed over by a caller may have such an
update; of their arguments it is supposed that they are maps.
-/
namespace IntentSelect

open Json Json.Reading

/-! ## Where experiences come from

What holds of every experience that is read from an ordered value or from a text holds of those
that calls bring into a catalog, if it holds of those that are handed over.
-/

section Read
variable {P : Experience → Prop}
  (hread : ∀ levels, Ensures Value.Ordered (Experience.reading levels) P)
include hread

theorem Experience.of_decode {v : Value} {e : Experience} (hv : v.Ordered)
    (h : decode v = .ok e) : P e :=
  (hread _).ofValue hv (decode_eq_ok_iff.mp h)

theorem Experience.of_decodeList {v : Value} {es : List Experience} (hv : v.Ordered)
    (h : decodeList v = .ok es) : ∀ e ∈ es, P e :=
  ((hread _).list Value.hereditary_ordered).ofValue hv (decode_eq_ok_iff.mp h)

namespace Catalog
variable {files : Storage} {path : String} {paths : List String} {batch : List Experience}

theorem of_decodeDocument {v : Value} (hv : v.Ordered) (h : decodeDocument v = .ok batch) :
    ∀ e ∈ batch, P e := by
  cases v with
  | array items => exact Experience.of_decodeList hread hv (mapError_eq_ok_iff.mp h)
  | object fields =>
    obtain ⟨e, he, rfl⟩ := map_eq_ok_iff.mp h
    exact List.forall_mem_singleton.mpr
      (Experience.of_decode hread hv (mapError_eq_ok_iff.mp he))
  | null => cases h
  | bool b => cases h
  | number n => cases h
  | string s => cases h

theorem of_readText {text : String} (h : readText text = .ok batch) : ∀ e ∈ batch, P e := by
  obtain ⟨v, hv, h⟩ := bind_eq_ok_iff.mp h
  exact of_decodeDocument hread (ordered_of_parse (mapError_eq_ok_iff.mp hv)) h

theorem of_readFile (h : readFile files path = .ok batch) : ∀ e ∈ batch, P e := by
  obtain ⟨text, -, h⟩ := bind_eq_ok_iff.mp h
  exact of_readText hread (mapError_eq_ok_iff.mp h)

theorem of_readFiles (h : readFiles files paths = .ok batch) : ∀ e ∈ batch, P e := by
  induction paths generalizing batch with
  | nil =>
    cases h
    exact List.forall_mem_nil _
  | cons path paths ih =>
    obtain ⟨first, hfirst, h⟩ := bind_eq_ok_iff.mp h
    obtain ⟨rest, hrest, heq⟩ := bind_eq_ok_iff.mp h
    cases heq
    exact List.forall_mem_append.mpr ⟨of_readFile hread hfirst, ih hrest⟩

end Catalog

end Read

namespace Call
variable {batch : List Experience}

/-- The experiences that the caller hands over; those of a load are read. -/
def given : Call → List Experience
  | .add e => [e]
  | .extend batch => batch
  | .loadText _ => []
  | .loadFile _ _ => []
  | .loadDirectory _ _ => []
  | .loadPath _ _ => []

section Read
variable {P : Experience → Prop}
  (hread : ∀ levels, Ensures Value.Ordered (Experience.reading levels) P)
include hread

theorem of_directoryBatch {files : Storage} {path : String}
    (h : directoryBatch files path = .ok batch) : ∀ e ∈ batch, P e := by
  unfold directoryBatch at h
  split at h
  · exact Catalog.of_readFiles hread h
  · cases h

/-- **What holds of whatever is read holds of the batch of a call.** -/
theorem of_batch {call : Call} (hgiven : ∀ e ∈ call.given, P e)
    (h : call.batch = .ok batch) : ∀ e ∈ batch, P e := by
  cases call with
  | add e =>
    cases h
    exact hgiven
  | extend batch =>
    cases h
    exact hgiven
  | loadText text => exact Catalog.of_readText hread h
  | loadFile files path => exact Catalog.of_readFile hread h
  | loadDirectory files path => exact of_directoryBatch hread h
  | loadPath files path =>
    simp only [Call.batch] at h
    split at h
    · exact of_directoryBatch hread h
    · exact Catalog.of_readFile hread h

end Read

end Call

namespace Session

section Read
variable {P : Experience → Prop}
  (hread : ∀ levels, Ensures Value.Ordered (Experience.reading levels) P)
include hread

theorem of_added {transcript : List (Call × Except Error Nat)}
    (hgiven : ∀ call ∈ transcript.map Prod.fst, ∀ e ∈ call.given, P e) :
    ∀ e ∈ added transcript, P e := by
  induction transcript with
  | nil => exact List.forall_mem_nil _
  | cons p rest ih =>
    obtain ⟨call, answer⟩ := p
    obtain ⟨hcall, hrest⟩ := List.forall_mem_cons.mp hgiven
    cases answer with
    | error err => exact ih hrest
    | ok n =>
      -- a call that has succeeded has read its batch, and any other adds nothing
      refine List.forall_mem_append.mpr ⟨?_, ih hrest⟩
      cases hbatch : call.batch with
      | error err => exact List.forall_mem_nil _
      | ok batch => exact Call.of_batch hread hcall hbatch

/-- **What holds of whatever is read holds of the whole catalog** after any calls, if it holds of
what has been handed over. -/
theorem of_mem_toList {calls : List Call} (hgiven : ∀ call ∈ calls, ∀ e ∈ call.given, P e) :
    ∀ e ∈ (ofCalls calls).catalog.toList, P e := by
  rw [(sound_ofCalls calls).toList_eq]
  refine of_added hread ?_
  rwa [calls_ofCalls]

end Read

end Session

/-! ## Saving and reloading -/

namespace Catalog
variable {c : Catalog}

/-- The value that a catalog is saved as, the array of its experiences. -/
def saved (c : Catalog) : Value := (Value.array (c.toList.map Experience.toJson)).canonical

/-- The catalog of the experiences in an array. -/
def reload (v : Value) : Except Error Catalog := do
  let batch ← (Experience.decodeList v).mapError .json
  ofList batch

theorem decodeList_saved (horder : ∀ e ∈ c.toList, e.Ordered) :
    Experience.decodeList c.saved = .ok (c.toList.map Experience.normalize) := by
  refine decode_eq_ok_iff.mpr (ofValue_canonical_list fun e he => ?_)
  refine Experience.ofValue_canonical (horder e he) _ ?_
  -- the levels are those of the whole array, in which every element lies
  rw [saved, canonical_array, List.map_map]
  exact Nat.le_succ_of_le (depth_le_itemsDepth (List.mem_map_of_mem he))

/-- What a catalog holds fits into an empty one. -/
theorem Consistent.fits_normalize (hc : c.Consistent) :
    empty.Fits (c.toList.map Experience.normalize) where
  hasText e he := by
    refine hc.hasText e.id ?_
    rw [ids, ← Experience.ids_normalize]
    exact List.mem_map_of_mem he
  free e _ := by simp [empty]
  different := by
    rw [Experience.ids_normalize]
    exact hc.nodup

/-- **A catalog is reloaded as it was saved**, with its experiences in normal form. -/
theorem Consistent.reload_saved (hc : c.Consistent) (horder : ∀ e ∈ c.toList, e.Ordered) :
    ∃ c', reload c.saved = .ok c' ∧ c'.Consistent ∧
      c'.toList = c.toList.map Experience.normalize := by
  have hextend := extend_eq_ok_iff.mpr ⟨hc.fits_normalize, rfl, rfl⟩
  obtain ⟨hc', hlist, -⟩ := consistent_empty.extend hextend
  refine ⟨_, ?_, hc', hlist⟩
  refine bind_eq_ok_iff.mpr ⟨_, mapError_eq_ok_iff.mpr (decodeList_saved horder), ?_⟩
  exact map_eq_ok_iff.mpr ⟨_, hextend, rfl⟩

/-- Look-ups find the same experiences in a catalog of the same experiences. -/
theorem Consistent.get?_normalize {c' : Catalog} (hc : c.Consistent) (hc' : c'.Consistent)
    (h : c'.toList = c.toList.map Experience.normalize) (id : String) :
    c'.get? id = (c.get? id).map Experience.normalize := by
  cases hid : c.get? id with
  | some e =>
    obtain ⟨he, heid⟩ := hc.get?_eq_some_iff.mp hid
    refine hc'.get?_eq_some_iff.mpr ⟨?_, heid⟩
    exact h ▸ List.mem_map_of_mem he
  | none =>
    rw [Option.map_none, hc'.get?_eq_none_iff, ids, h, Experience.ids_normalize]
    exact hc.get?_eq_none_iff.mp hid

/-- The candidates are the same experiences. -/
theorem candidates_of_toList_eq {c' : Catalog}
    (h : c'.toList = c.toList.map Experience.normalize) :
    c'.candidates = c.candidates.map Experience.normalize := by
  rw [candidates, h, List.filter_map, candidates]
  congr 2
  exact funext Experience.isEnabled_normalize

end Catalog

namespace Session
open Catalog Selector

/-- **Saving and reloading.**  Suppose that the arguments in all experiences that are handed over
are maps, listed in the order of their keys.  After any calls on a new catalog, whether they have
succeeded or failed, the catalog is saved as an array that can be read back and added to an empty
catalog.  That has as many experiences, in the same order; each is unchanged in all its fields,
only in its expression the empty expression stands in place of empty lists, and a stray leap second
as its update is settled.  A look-up of an id finds the same experience.

If all of them are candidates, or those that are enabled, any selector finds the same ids to match,
with the same calls of matchers and the same events.  It selects the same id, unless of those that
match one overtakes another, and calls the same matchers in any case.

If no update that is handed over is a stray leap second, no update changes, and any selector selects
the same id, with the same calls and the same events. -/
theorem reload_after_calls (calls : List Call)
    (hgiven : ∀ call ∈ calls, ∀ e ∈ call.given, e.Ordered) :
    let c := (ofCalls calls).catalog
    ∃ c', reload c.saved = .ok c' ∧
      c'.size = c.size ∧
      c'.toList = c.toList.map Experience.normalize ∧
      (∀ id, c'.get? id = (c.get? id).map Experience.normalize) ∧
      MatchAlike c.toList c'.toList ∧
      MatchAlike c.candidates c'.candidates ∧
      ((∀ call ∈ calls, ∀ e ∈ call.given, e.Settled) →
        (∀ e ∈ c.toList, e.normalize.updatedAt = e.updatedAt) ∧
        SelectAlike c.toList c'.toList ∧
        SelectAlike c.candidates c'.candidates) := by
  intro c
  have hc : c.Consistent := (sound_ofCalls calls).consistent
  have horder := of_mem_toList Experience.ensures_ordered hgiven
  obtain ⟨c', hreload, hc', hlist⟩ := hc.reload_saved horder
  have hall : MatchAlike c.toList c'.toList := hlist ▸ matchAlike_map_normalize c.toList
  have hcandidates : MatchAlike c.candidates c'.candidates :=
    candidates_of_toList_eq hlist ▸ matchAlike_map_normalize c.candidates
  refine ⟨c', hreload, ?_, hlist, ?_, hall, hcandidates, fun hgiven' => ?_⟩
  · have hlength := congrArg List.length hlist
    simpa [toList, size] using hlength
  · -- both catalogs are consistent, so a look-up is settled by what they hold
    exact hc.get?_normalize hc' hlist
  · have hsettled : ∀ e ∈ c.toList, e.Settled :=
      of_mem_toList Experience.ensures_settled hgiven'
    have hnone : Experience.NoneOvertakes c.toList :=
      fun a ha _ _ => (hsettled a ha).not_overtakes
    refine ⟨fun e he => (hsettled e he).map_eq, hall.selectAlike hnone, ?_⟩
    have hsub : c.candidates ⊆ c.toList := List.filter_subset_self _
    exact hcandidates.selectAlike fun a ha b hb => hnone a (hsub ha) b (hsub hb)

/-! ### An experience that is added twice -/

/-- A plan of one call with nested arguments, and an empty conjunction. -/
def keepsake : Experience where
  id := "visit"
  title := "Plan a visit"
  kind := .react
  updatedAt := Timestamp.ofParts? 1700000099 1500000000
  fastIntent := some (.ofExpression (.not (.allOf [])))
  artifact := some { react := some { plan := some { toolCalls := [{
    toolName := "search"
    arguments := [("filter", .object [("open", .bool true), ("when", .null)]),
      ("text", .string "museum")] }] } } }

/-- The second call fails, since the id is taken. -/
def keepsakes : List Call := [.add keepsake, .add keepsake]

theorem ordered_keepsake : keepsake.Ordered := by
  rintro _ ⟨⟩ _ ⟨⟩ _ ⟨⟩
  exact List.forall_mem_singleton.mpr rfl

theorem toList_keepsakes : (ofCalls keepsakes).catalog.toList = [keepsake] := by
  have htext : Text.hasText keepsake.id = true := by decide +kernel
  have hfirst : (Call.add keepsake).run {} = .ok (1, Catalog.push {} keepsake) := by
    rw [Call.run, Catalog.add_eq, if_pos htext, if_neg (by simp)]
    rfl
  have hsecond : (Call.add keepsake).run (Catalog.push {} keepsake) =
      .error (.duplicateExperience "visit") := by
    rw [Call.run, Catalog.add_eq, if_pos htext, if_pos (by simp [contains_push])]
    rfl
  have hmake : make {} (.add keepsake) =
      ⟨Catalog.push {} keepsake, [(.add keepsake, .ok 1)]⟩ := make_of_ok hfirst
  show ((make {} (.add keepsake)).make (.add keepsake)).catalog.toList = [keepsake]
  rw [hmake, make_of_error hsecond]
  exact toList_push {} keepsake

theorem settled_keepsake : keepsake.Settled := by
  rintro _ ⟨⟩
  decide

/-- What is reloaded has its leap second and its arguments; only the empty conjunction is lost, and
any selector selects as before. -/
theorem reload_after_calls_keepsakes :
    (∀ call ∈ keepsakes, ∀ e ∈ call.given, e.Ordered) ∧
    (∀ call ∈ keepsakes, ∀ e ∈ call.given, e.Settled) ∧
    ∃ c', reload (ofCalls keepsakes).catalog.saved = .ok c' ∧
      c'.toList = [{ keepsake with fastIntent := some (.ofExpression (.not .empty)) }] ∧
      SelectAlike [keepsake] c'.toList := by
  have hgiven : ∀ call ∈ keepsakes, ∀ e ∈ call.given, e.Ordered := by
    simp [keepsakes, Call.given, ordered_keepsake]
  have hgiven' : ∀ call ∈ keepsakes, ∀ e ∈ call.given, e.Settled := by
    simp [keepsakes, Call.given, settled_keepsake]
  obtain ⟨c', hreload, -, hlist, -, -, -, hsettled⟩ := reload_after_calls keepsakes hgiven
  obtain ⟨-, hselect, -⟩ := hsettled hgiven'
  rw [toList_keepsakes] at hlist hselect
  exact ⟨hgiven, hgiven', c', hreload, hlist, hselect⟩

/-! ### A leap second in the middle of a minute -/

/-- Half a second into a leap second. -/
def early : Experience where
  id := "early"
  title := "Leap second after 22:13:20"
  updatedAt := Timestamp.ofParts? 1700000000 1500000000
  fastIntent := some (.ofExpression (.not .empty))

/-- A quarter of a second into the next second. -/
def late : Experience where
  id := "late"
  title := "After 22:13:21"
  updatedAt := Timestamp.ofParts? 1700000001 250000000
  fastIntent := some (.ofExpression (.not .empty))

def strays : List Call := [.extend [early, late]]

/-- **A reload can turn a selection round.**  The leap second is read back as a time of the next
second, in which it is the later one. -/
theorem reload_after_calls_strays :
    let c := (ofCalls strays).catalog
    let s := (Selector.build [] {}).result
    (∀ call ∈ strays, ∀ e ∈ call.given, e.Ordered) ∧
    ∃ c', reload c.saved = .ok c' ∧
      c'.toList.map Experience.updatedAt =
        [Timestamp.ofParts? 1700000001 500000000, Timestamp.ofParts? 1700000001 250000000] ∧
      c'.toList.map Experience.updatedAt ≠ c.toList.map Experience.updatedAt ∧
      (s.best? {} c.toList).result.map Experience.id = some "late" ∧
      (s.best? {} c'.toList).result.map Experience.id = some "early" ∧
      ¬ SelectAlike c.toList c'.toList := by
  intro c s
  have hlist : c.toList = [early, late] := toList_ofCalls_extend (by decide) (by decide)
  have hgiven : ∀ call ∈ strays, ∀ e ∈ call.given, e.Ordered := by
    simp [strays, Call.given, Experience.Ordered, early, late]
  have horder := of_mem_toList Experience.ensures_ordered hgiven
  obtain ⟨c', hreload, -, hlist'⟩ := (sound_ofCalls strays).consistent.reload_saved horder
  have hlist' : c'.toList = [early.normalize, late.normalize] := hlist' ▸ congrArg _ hlist
  have hlate : (s.best? {} [early, late]).result.map Experience.id = some "late" := by rfl
  have hearly : (s.best? {} [early.normalize, late.normalize]).result.map Experience.id =
      some "early" := by rfl
  rw [hlist]
  refine ⟨hgiven, c', hreload, ?_⟩
  rw [hlist']
  refine ⟨by rfl, by decide, hlate, hearly, fun h => ?_⟩
  have hsame := congrArg Traced.result (h s {}).2
  rw [Traced.result_map, Traced.result_map, hearly, hlate] at hsame
  exact absurd hsame (by decide)

end Session

end IntentSelect
