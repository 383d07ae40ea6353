import IntentSelect.Proofs.CatalogSession

/-! # Adding a batch and adding one by one

`Catalog.extend` checks a whole batch before it adds anything: against the index as
it stands, and against the ids seen before in the batch.  `Catalog.addEach` adds the
experiences by calls of their own, each checked against an index that the calls
before it have made larger.

The two agree on every batch.  What the check has seen is what single additions have
put into the index by then (`check_eq_addEach`), so a batch is added exactly if every
single addition succeeds, with the same catalog, and is refused for the reason for
which the first of them fails (`extend_eq_addEach`).  That reason is a `Fault`: the
id is blank or, if it is not, an experience in the catalog or before in the batch
has it.  Unlike single additions, a batch that is refused leaves nothing behind
(`extend_as_addEach`).
-/
namespace IntentSelect.Catalog
variable {c c' : Catalog} {e : Experience} {batch : List Experience} {err : Error}

/-! ## Single additions -/

/-- Adds experiences one by one, up to the first that is refused. -/
def addEach (c : Catalog) (batch : List Experience) : Except Error Catalog :=
  batch.foldlM add c

theorem addEach_cons (c : Catalog) (e : Experience) (batch : List Experience) :
    c.addEach (e :: batch) = (c.add e).bind (·.addEach batch) := rfl

theorem addEach_append (c : Catalog) (batch rest : List Experience) :
    c.addEach (batch ++ rest) = (c.addEach batch).bind (·.addEach rest) :=
  List.foldlM_append

theorem add_eq (c : Catalog) (e : Experience) :
    c.add e = if Text.hasText e.id then
        if c.index.contains e.id then .error (.duplicateExperience e.id) else .ok (c.push e)
      else .error (.blankId e.title) := by
  unfold add extend check
  simp only [List.contains_nil, Bool.or_false]
  by_cases htext : Text.hasText e.id = true
  · rw [if_pos htext, if_pos htext]
    cases c.index.contains e.id <;> rfl
  · rw [if_neg htext, if_neg htext]
    rfl

/-- The first single addition that fails ends them. -/
theorem addEach_eq_error_iff : c.addEach batch = .error err ↔
    ∃ before e after c', batch = before ++ e :: after ∧
      c.addEach before = .ok c' ∧ c'.add e = .error err := by
  induction batch generalizing c with
  | nil =>
    refine iff_of_false nofun ?_
    rintro ⟨before, e, after, -, h, -⟩
    cases before <;> cases h
  | cons d ds ih =>
    rw [addEach_cons]
    cases hd : c.add d with
    | error err' =>
      constructor
      · intro h
        exact ⟨[], d, ds, c, rfl, rfl, hd.trans h⟩
      · rintro ⟨before, e, after, c', hsplit, hbefore, he⟩
        cases before with
        | nil =>
          cases hbefore
          rw [← (List.cons.inj hsplit).1, hd] at he
          exact he
        | cons b bs =>
          rw [addEach_cons, ← (List.cons.inj hsplit).1, hd] at hbefore
          cases hbefore
    | ok c₁ =>
      show c₁.addEach ds = .error err ↔ _
      rw [ih]
      constructor
      · rintro ⟨before, e, after, c', rfl, hbefore, he⟩
        exact ⟨d :: before, e, after, c', rfl, by rw [addEach_cons, hd]; exact hbefore, he⟩
      · rintro ⟨before, e, after, c', hsplit, hbefore, he⟩
        cases before with
        | nil =>
          cases hbefore
          rw [← (List.cons.inj hsplit).1, hd] at he
          cases he
        | cons b bs =>
          obtain ⟨rfl, hrest⟩ := List.cons.inj hsplit
          rw [addEach_cons, hd] at hbefore
          exact ⟨bs, e, after, c', hrest, hbefore, he⟩

/-! ## The batch as single additions -/

/-- The check of a batch, with what it has seen, is what single additions come to in a
catalog that has grown by what was seen. -/
theorem check_eq_addEach {seen : List String} {grown : Catalog}
    (hgrown : ∀ id, grown.index.contains id = (c.index.contains id || seen.contains id)) :
    (c.check seen batch).map (fun _ => batch.foldl push grown) = grown.addEach batch := by
  induction batch generalizing seen grown with
  | nil => rfl
  | cons e es ih =>
    rw [addEach_cons, add_eq, hgrown e.id, check]
    by_cases htext : Text.hasText e.id = true
    · rw [if_pos htext, if_pos htext]
      by_cases htaken : (c.index.contains e.id || seen.contains e.id) = true
      · rw [if_pos htaken, if_pos htaken]
        rfl
      · rw [if_neg htaken, if_neg htaken]
        -- the id joins those seen on one side and those in the index on the other
        refine ih fun id => ?_
        rw [contains_push, hgrown, List.contains_cons, Bool.beq_comm (a := id)]
        rw [← Bool.or_assoc, Bool.or_comm (e.id == id), Bool.or_assoc]
    · rw [if_neg htext, if_neg htext]
      rfl

/-- **A batch comes to single additions in order**, with the same catalog or the same
error. -/
theorem extend_eq_addEach (c : Catalog) (batch : List Experience) :
    c.extend batch = (c.addEach batch).map fun c' => (batch.length, c') := by
  have hcheck : (c.check [] batch).map (fun _ => batch.foldl push c) = c.addEach batch :=
    check_eq_addEach (by simp)
  rw [← hcheck, extend]
  cases c.check [] batch <;> rfl

theorem addEach_eq_ok_iff :
    c.addEach batch = .ok c' ↔ c.extend batch = .ok (batch.length, c') := by
  rw [extend_eq_addEach]
  cases c.addEach batch with
  | error err => simp [Except.map]
  | ok c₁ => simp [Except.map]

theorem addEach_eq_error_iff_extend :
    c.addEach batch = .error err ↔ c.extend batch = .error err := by
  rw [extend_eq_addEach]
  cases c.addEach batch with
  | error err' => simp [Except.map]
  | ok c₁ => simp [Except.map]

/-! ## Why an experience is refused -/

/-- Why an experience may not follow others: its id is blank or, if it is not, one of
the others has it. -/
inductive Fault (others : List Experience) (e : Experience) : Error → Prop
  | blank (h : Text.hasText e.id = false) : Fault others e (.blankId e.title)
  | taken {d : Experience} (h : Text.hasText e.id = true) (hd : d ∈ others)
    (hid : d.id = e.id) : Fault others e (.duplicateExperience e.id)

theorem Consistent.contains_iff_exists (hc : c.Consistent) {id : String} :
    c.index.contains id = true ↔ ∃ d ∈ c.toList, d.id = id := by
  rw [hc.contains_iff, ids, List.mem_map]

/-- An addition fails exactly with the fault that the experience has. -/
theorem Consistent.add_eq_error_iff (hc : c.Consistent) :
    c.add e = .error err ↔ Fault c.toList e err := by
  rw [add_eq]
  constructor
  · intro h
    by_cases htext : Text.hasText e.id = true
    · rw [if_pos htext] at h
      by_cases htaken : c.index.contains e.id = true
      · rw [if_pos htaken] at h
        cases h
        obtain ⟨d, hd, hid⟩ := hc.contains_iff_exists.mp htaken
        exact .taken htext hd hid
      · rw [if_neg htaken] at h
        cases h
    · rw [if_neg htext] at h
      cases h
      exact .blank (Bool.eq_false_iff.mpr htext)
  · rintro (htext | ⟨htext, hd, hid⟩)
    · rw [htext]
      rfl
    · rw [if_pos htext, if_pos (hc.contains_iff_exists.mpr ⟨_, hd, hid⟩)]

/-- A batch is refused for the reason for which the first single addition fails, which
is a fault. -/
theorem Consistent.extend_eq_error_iff_addEach (hc : c.Consistent) :
    c.extend batch = .error err ↔ ∃ before e after c',
      batch = before ++ e :: after ∧ c.addEach before = .ok c' ∧
        c'.add e = .error err ∧ Fault (c.toList ++ before) e err := by
  rw [← addEach_eq_error_iff_extend, addEach_eq_error_iff]
  constructor
  · rintro ⟨before, e, after, c', hsplit, hbefore, he⟩
    obtain ⟨hc', hlist, -⟩ := hc.extend (addEach_eq_ok_iff.mp hbefore)
    exact ⟨before, e, after, c', hsplit, hbefore, he, hlist ▸ hc'.add_eq_error_iff.mp he⟩
  · rintro ⟨before, e, after, c', hsplit, hbefore, he, -⟩
    exact ⟨before, e, after, c', hsplit, hbefore, he⟩

/-- A batch is refused for the first fault in it. -/
theorem Consistent.extend_eq_error_iff (hc : c.Consistent) :
    c.extend batch = .error err ↔ ∃ before e after, batch = before ++ e :: after ∧
      c.Fits before ∧ Fault (c.toList ++ before) e err := by
  rw [hc.extend_eq_error_iff_addEach]
  constructor
  · rintro ⟨before, e, after, c', hsplit, hbefore, -, hfault⟩
    have hfits := (extend_eq_ok_iff.mp (addEach_eq_ok_iff.mp hbefore)).1
    exact ⟨before, e, after, hsplit, hfits, hfault⟩
  · rintro ⟨before, e, after, hsplit, hfits, hfault⟩
    have hbefore := extend_eq_ok_iff.mpr ⟨hfits, rfl, rfl⟩
    obtain ⟨hc', hlist, -⟩ := hc.extend hbefore
    have he := hc'.add_eq_error_iff.mpr (hlist.symm ▸ hfault)
    exact ⟨before, e, after, _, hsplit, addEach_eq_ok_iff.mpr hbefore, he, hfault⟩

end IntentSelect.Catalog

namespace IntentSelect.Session
open Catalog

theorem make_of_ok {s : Session} {call : Call} {n : Nat} {c : Catalog}
    (h : call.run s.catalog = .ok (n, c)) :
    s.make call = ⟨c, s.transcript ++ [(call, .ok n)]⟩ := by
  rw [make, h]

theorem make_of_error {s : Session} {call : Call} {err : Error}
    (h : call.run s.catalog = .error err) :
    s.make call = ⟨s.catalog, s.transcript ++ [(call, .error err)]⟩ := by
  rw [make, h]

/-- A batch of experiences with different ids, of which none is blank, makes up a new
catalog. -/
theorem toList_ofCalls_extend {batch : List Experience}
    (htext : ∀ e ∈ batch, Text.hasText e.id = true)
    (hids : (batch.map Experience.id).Nodup) :
    (ofCalls [.extend batch]).catalog.toList = batch := by
  have hfits : Fits {} batch := consistent_empty.fits_iff.mpr ⟨htext, hids⟩
  have hrun : (Call.extend batch).run {} = .ok (batch.length, batch.foldl push {}) :=
    extend_eq_ok_iff.mpr ⟨hfits, rfl, rfl⟩
  have hmake : ofCalls [.extend batch] =
      ⟨batch.foldl push {}, [(.extend batch, .ok batch.length)]⟩ := make_of_ok hrun
  rw [hmake]
  exact toList_foldl_push {} batch

/-- **A batch is added like its experiences one by one, or not at all.**  After any
calls on a new catalog: adding a batch succeeds exactly if adding its experiences one
by one succeeds, with the length of the batch as its answer and the catalog that the
single additions make.  Otherwise it is answered by the error of the first of them
that fails: the id of that experience is blank or, if it is not, an experience in the
catalog or before in the batch has it.  Then the catalog stays as it was.

A single experience is refused exactly if it has such a fault.  A batch is added
exactly if no id in it is blank and none stands twice in the catalog with the batch
after it; then the catalog has the batch after what it had, and look-ups find it. -/
theorem extend_as_addEach (calls : List Call) (batch : List Experience) :
    let s := ofCalls calls
    (∀ n c', s.catalog.extend batch = .ok (n, c') ↔
      n = batch.length ∧ s.catalog.addEach batch = .ok c') ∧
    (∀ err, s.catalog.extend batch = .error err ↔ ∃ before e after c',
      batch = before ++ e :: after ∧ s.catalog.addEach before = .ok c' ∧
        c'.add e = .error err ∧ Fault (s.catalog.toList ++ before) e err) ∧
    (∀ c', s.catalog.addEach batch = .ok c' →
      s.make (.extend batch) =
        ⟨c', s.transcript ++ [(.extend batch, .ok batch.length)]⟩) ∧
    (∀ err, s.catalog.addEach batch = .error err →
      s.make (.extend batch) =
        ⟨s.catalog, s.transcript ++ [(.extend batch, .error err)]⟩) ∧
    (∀ e err, s.catalog.add e = .error err ↔ Fault s.catalog.toList e err) ∧
    ((∃ n c', s.catalog.extend batch = .ok (n, c')) ↔
      (∀ e ∈ batch, Text.hasText e.id = true) ∧
        ((s.catalog.toList ++ batch).map Experience.id).Nodup) ∧
    ∀ n c', s.catalog.extend batch = .ok (n, c') →
      c'.toList = s.catalog.toList ++ batch ∧
        ∀ id e, c'.get? id = some e ↔ e ∈ c'.toList ∧ e.id = id := by
  intro s
  have hc : s.catalog.Consistent := (sound_ofCalls calls).consistent
  refine ⟨?_, ?_, ?_, ?_, fun _ _ => hc.add_eq_error_iff, ?_, ?_⟩
  · intro n c'
    rw [addEach_eq_ok_iff]
    constructor
    · intro h
      obtain rfl : n = batch.length := (hc.extend h).2.2
      exact ⟨rfl, h⟩
    · rintro ⟨rfl, h⟩
      exact h
  · intro err
    exact hc.extend_eq_error_iff_addEach
  · intro c' h
    exact make_of_ok (addEach_eq_ok_iff.mp h)
  · intro err h
    exact make_of_error (addEach_eq_error_iff_extend.mp h)
  · rw [← hc.fits_iff]
    constructor
    · rintro ⟨n, c', h⟩
      exact (extend_eq_ok_iff.mp h).1
    · intro hfits
      exact ⟨_, _, extend_eq_ok_iff.mpr ⟨hfits, rfl, rfl⟩⟩
  · intro n c' h
    obtain ⟨hc', hlist, -⟩ := hc.extend h
    exact ⟨hlist, fun _ _ => hc'.get?_eq_some_iff⟩

/-! ### Guests -/

def ada : Experience := { id := "ada" }
def bob : Experience := { id := "bob" }

/-- A second guest is added alone, but not together with the first once more. -/
theorem extend_as_addEach_guests :
    let s := ofCalls [.extend [ada]]
    (∃ c', s.make (.extend [bob]) =
        ⟨c', s.transcript ++ [(.extend [bob], .ok 1)]⟩ ∧ c'.toList = [ada, bob]) ∧
    s.make (.extend [bob, ada]) = ⟨s.catalog, s.transcript ++
        [(.extend [bob, ada], .error (.duplicateExperience "ada"))]⟩ := by
  have hlist : (ofCalls [.extend [ada]]).catalog.toList = [ada] :=
    toList_ofCalls_extend (by decide) (by decide)
  obtain ⟨hsingle, -, hmake, -, -, hfits, hstored⟩ := extend_as_addEach [.extend [ada]] [bob]
  obtain ⟨-, herror, -, hunchanged, -⟩ := extend_as_addEach [.extend [ada]] [bob, ada]
  rw [hlist] at hfits hstored herror
  obtain ⟨n, c', hextend⟩ := hfits.mpr ⟨by decide, by decide⟩
  obtain ⟨hn, heach⟩ := (hsingle n c').mp hextend
  obtain ⟨hlist', -⟩ := hstored n c' hextend
  have hc' : c'.Consistent := ((sound_ofCalls _).consistent.extend hextend).1
  have hada : Fault [ada, bob] ada (.duplicateExperience "ada") :=
    .taken (by decide) List.mem_cons_self rfl
  have hadd : c'.add ada = .error (.duplicateExperience "ada") :=
    hc'.add_eq_error_iff.mpr (hlist' ▸ hada)
  refine ⟨⟨c', hmake c' heach, hlist'⟩, hunchanged _ ?_⟩
  exact addEach_eq_error_iff_extend.mpr
    ((herror _).mpr ⟨[bob], ada, [], c', rfl, heach, hadd, hada⟩)

end IntentSelect.Session
