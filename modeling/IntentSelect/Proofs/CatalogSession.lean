import IntentSelect.Proofs.CatalogIndex

/-! # Catalogs in use

A catalog is filled by calls: experiences are added one by one or in batches, and
loaded from texts, files and directories.  Each call says with which storage it is
made, since files may change from one call to the next.  Whatever a call is, it
reads a batch, without regard to the catalog, and adds it as a whole
(`Call.run_eq`); a call that fails leaves the catalog as it was.

A `Session` is a catalog together with the calls made so far and their answers.
`Session.Sound` is kept by every call, so it holds after any calls
(`Session.sound_ofCalls`): the catalog is consistent, holds the batches of the
successful calls one after another, and is as large as their answers add up to.
-/
namespace IntentSelect

/-! ## Calls -/

/-- A call that may change a catalog. -/
inductive Call where
  | add (e : Experience)
  | extend (batch : List Experience)
  | loadText (text : String)
  | loadFile (files : Storage) (path : String)
  | loadDirectory (files : Storage) (path : String)
  | loadPath (files : Storage) (path : String)

namespace Call
variable {c c' : Catalog} {n : Nat}

/-- How many experiences a call adds, and the catalog after it. -/
def run (c : Catalog) : Call → Except Error (Nat × Catalog)
  | .add e => (c.add e).map fun c' => (1, c')
  | .extend batch => c.extend batch
  | .loadText text => c.loadText text
  | .loadFile files path => (c.loadFile files path).result
  | .loadDirectory files path => (c.loadDirectory files path).result
  | .loadPath files path => (c.loadPath files path).result

/-- The experiences in the files of a directory, in order of their names. -/
def directoryBatch (files : Storage) (path : String) : Except Error (List Experience) :=
  match files.look path with
  | .directory names => Catalog.readFiles files (Catalog.documentsIn files path names)
  | _ => .error (.experienceLoad path "Not a directory")

/-- The experiences that a call is about. -/
def batch : Call → Except Error (List Experience)
  | .add e => .ok [e]
  | .extend batch => .ok batch
  | .loadText text => Catalog.readText text
  | .loadFile files path => Catalog.readFile files path
  | .loadDirectory files path => directoryBatch files path
  | .loadPath files path =>
    if files.isDirectory path then directoryBatch files path else Catalog.readFile files path

theorem result_loadFile (files : Storage) (path : String) (c : Catalog) :
    (c.loadFile files path).result = (Catalog.readFile files path).bind c.extend := by
  unfold Catalog.loadFile
  cases Catalog.readFile files path with
  | error e => rfl
  | ok batch =>
    cases h : c.extend batch <;> simp [Except.bind, h]

theorem result_loadDirectory (files : Storage) (path : String) (c : Catalog) :
    (c.loadDirectory files path).result = (directoryBatch files path).bind c.extend := by
  unfold Catalog.loadDirectory directoryBatch
  cases files.look path with
  | refused fault => rfl
  | file content => rfl
  | special content => rfl
  | directory names =>
    simp only
    cases (Catalog.readFiles files (Catalog.documentsIn files path names)).bind c.extend <;> rfl

theorem add_eq (c : Catalog) (e : Experience) :
    ((c.add e).map fun c' => (1, c')) = c.extend [e] := by
  unfold Catalog.add
  cases h : c.extend [e] with
  | error e => rfl
  | ok r =>
    obtain ⟨n, c'⟩ := r
    obtain ⟨-, rfl, -⟩ := Catalog.extend_eq_ok_iff.mp h
    rfl

/-- **Every call reads its batch and adds it as a whole.** -/
theorem run_eq (c : Catalog) (call : Call) : call.run c = call.batch.bind c.extend := by
  cases call with
  | add e => exact add_eq c e
  | extend batch => rfl
  | loadText text => rfl
  | loadFile files path => exact result_loadFile files path c
  | loadDirectory files path => exact result_loadDirectory files path c
  | loadPath files path =>
    show (c.loadPath files path).result =
      (if files.isDirectory path then directoryBatch files path
        else Catalog.readFile files path).bind c.extend
    unfold Catalog.loadPath
    split
    · exact result_loadDirectory files path c
    · exact result_loadFile files path c

theorem exists_batch_of_run {call : Call} (h : call.run c = .ok (n, c')) :
    ∃ batch, call.batch = .ok batch ∧ c.extend batch = .ok (n, c') := by
  rw [run_eq] at h
  cases hb : call.batch with
  | error e => rw [hb] at h; cases h
  | ok batch => rw [hb] at h; exact ⟨batch, rfl, h⟩

end Call

/-! ## Sessions -/

/-- A catalog in use. -/
structure Session where
  catalog : Catalog := {}
  /-- The calls made so far, each with the number of experiences that it has added
  or the reason why it has not. -/
  transcript : List (Call × Except Error Nat) := []

namespace Session

/-- One more call; if it fails, the catalog stays as it is. -/
def make (s : Session) (call : Call) : Session :=
  match call.run s.catalog with
  | .ok (n, c) => ⟨c, s.transcript ++ [(call, .ok n)]⟩
  | .error e => ⟨s.catalog, s.transcript ++ [(call, .error e)]⟩

/-- A session with a new catalog. -/
def ofCalls (calls : List Call) : Session := calls.foldl make {}

/-- The batches of the successful calls of a transcript, one after another. -/
def added : List (Call × Except Error Nat) → List Experience
  | [] => []
  | (call, .ok _) :: rest => call.batch.toOption.getD [] ++ added rest
  | (_, .error _) :: rest => added rest

/-- What the answers to the successful calls of a transcript add up to. -/
def counted : List (Call × Except Error Nat) → Nat
  | [] => 0
  | (_, .ok n) :: rest => n + counted rest
  | (_, .error _) :: rest => counted rest

theorem added_append (t u : List (Call × Except Error Nat)) :
    added (t ++ u) = added t ++ added u := by
  induction t with
  | nil => rfl
  | cons p t ih =>
    obtain ⟨call, answer⟩ := p
    cases answer <;> simp [added, ih]

theorem counted_append (t u : List (Call × Except Error Nat)) :
    counted (t ++ u) = counted t + counted u := by
  induction t with
  | nil => simp [counted]
  | cons p t ih =>
    obtain ⟨call, answer⟩ := p
    cases answer <;> simp [counted, ih, Nat.add_assoc]

/-- What holds after any calls. -/
structure Sound (s : Session) : Prop where
  consistent : s.catalog.Consistent
  toList_eq : s.catalog.toList = added s.transcript
  size_eq : s.catalog.size = counted s.transcript
  /-- A successful call is answered by the length of its batch. -/
  answered : ∀ call n, (call, .ok n) ∈ s.transcript →
    ∃ batch, call.batch = .ok batch ∧ batch.length = n

theorem sound_empty : Sound {} where
  consistent := Catalog.consistent_empty
  toList_eq := rfl
  size_eq := rfl
  answered call n h := by cases h

theorem Sound.make {s : Session} (hs : s.Sound) (call : Call) : (s.make call).Sound := by
  unfold Session.make
  cases hrun : call.run s.catalog with
  | error e =>
    refine ⟨hs.consistent, ?_, ?_, ?_⟩
    · simp [added_append, added, hs.toList_eq]
    · simp [counted_append, counted, hs.size_eq]
    · intro d n hd
      rcases List.mem_append.mp hd with hd | hd
      · exact hs.answered d n hd
      · cases List.mem_singleton.mp hd
  | ok r =>
    obtain ⟨n, c⟩ := r
    obtain ⟨batch, hbatch, hextend⟩ := Call.exists_batch_of_run hrun
    obtain ⟨hc, hlist, hn⟩ := hs.consistent.extend hextend
    refine ⟨hc, ?_, ?_, ?_⟩
    · simp [added_append, added, hbatch, hlist, hs.toList_eq, Except.toOption]
    · have hsize : c.size = s.catalog.size + n := by
        have hlen := congrArg List.length hlist
        simpa [Catalog.toList, Catalog.size, hn] using hlen
      simp [counted_append, counted, hsize, hs.size_eq]
    · intro d m hd
      rcases List.mem_append.mp hd with hd | hd
      · exact hs.answered d m hd
      · cases List.mem_singleton.mp hd
        exact ⟨batch, hbatch, hn.symm⟩

theorem Sound.foldl {s : Session} (hs : s.Sound) (calls : List Call) :
    (calls.foldl Session.make s).Sound := by
  induction calls generalizing s with
  | nil => exact hs
  | cons call calls ih => exact ih (hs.make call)

/-- **The invariant of all sessions.** -/
theorem sound_ofCalls (calls : List Call) : (ofCalls calls).Sound := sound_empty.foldl calls

theorem calls_make (s : Session) (call : Call) :
    (s.make call).transcript.map Prod.fst = s.transcript.map Prod.fst ++ [call] := by
  unfold make
  cases call.run s.catalog <;> simp

/-- The transcript lists the calls in their order. -/
theorem calls_ofCalls (calls : List Call) :
    (ofCalls calls).transcript.map Prod.fst = calls := by
  have key : ∀ s : Session,
      (calls.foldl make s).transcript.map Prod.fst = s.transcript.map Prod.fst ++ calls := by
    induction calls with
    | nil => simp
    | cons call calls ih => intro s; simp [ih, calls_make]
  exact key {}

/-- **Catalogs in use.**  After any calls on a new catalog, whether they have
succeeded or failed: no id is blank, no two experiences have the same id, and the
index has an id at a place exactly if the experience at that place has the id; a
look-up finds exactly the experience with the id, and nothing exactly for the ids
that are not there; the experiences are those of the batches of the successful
calls in the order of the calls; their number is what the answers add up to, each
answer being the length of its batch. -/
theorem catalog_after_calls (calls : List Call) :
    let s := ofCalls calls
    s.transcript.map Prod.fst = calls ∧
    (∀ e ∈ s.catalog.toList, Text.hasText e.id = true) ∧
    (s.catalog.toList.map Experience.id).Nodup ∧
    (∀ id i, s.catalog.indexOf? id = some i ↔
      ∃ h : i < s.catalog.experiences.size, s.catalog.experiences[i].id = id) ∧
    (∀ id e, s.catalog.get? id = some e ↔ e ∈ s.catalog.toList ∧ e.id = id) ∧
    (∀ id, s.catalog.get? id = none ↔ ∀ e ∈ s.catalog.toList, e.id ≠ id) ∧
    s.catalog.toList = added s.transcript ∧
    s.catalog.size = counted s.transcript ∧
    ∀ call n, (call, .ok n) ∈ s.transcript →
      ∃ batch, call.batch = .ok batch ∧ batch.length = n := by
  intro s
  have hs : s.Sound := sound_ofCalls calls
  have hc := hs.consistent
  refine ⟨calls_ofCalls calls, ?_, hc.nodup, ?_, ?_, ?_, hs.toList_eq, hs.size_eq, hs.answered⟩
  · intro e he
    exact hc.hasText e.id (List.mem_map.mpr ⟨e, he, rfl⟩)
  · intro id i
    rw [hc.indexOf?_eq_some_iff, Catalog.getElem?_ids, Option.map_eq_some_iff]
    constructor
    · rintro ⟨e, he, rfl⟩
      obtain ⟨h, rfl⟩ := Array.getElem?_eq_some_iff.mp he
      exact ⟨h, rfl⟩
    · rintro ⟨h, hid⟩
      exact ⟨_, Array.getElem?_eq_getElem h, hid⟩
  · intro id e
    exact hc.get?_eq_some_iff
  · intro id
    rw [hc.get?_eq_none_iff, Catalog.ids, List.mem_map, not_exists]
    simp only [not_and, ne_eq]

end Session

end IntentSelect
