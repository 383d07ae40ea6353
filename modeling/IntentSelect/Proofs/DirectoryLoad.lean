import IntentSelect.Proofs.BatchAddition
import IntentSelect.Proofs.Documents
import IntentSelect.Proofs.Successes

/-! # Loading a directory

`Catalog.loadDirectory` picks the documents out of what a directory lists, reads them
all in the order of their names, and adds what they hold as one batch.

As long as nothing fails this is the same as loading the documents one after another
(`loadEach_eq_ok_iff`), although the ids of all of them are checked together and not
file by file.  If something fails, the two may fail differently.  A directory is
answered by the first document that cannot be read (`readFiles_eq_error_iff`), even if
an id of an earlier one would have been refused; only if all can be read it is
answered by the first fault in the batch that they make together.
-/
namespace IntentSelect

/-! ## Listings in another order -/

/-- The same stands at a path, but a directory may list its names in another order. -/
inductive Entry.Reordered : Entry → Entry → Prop
  | same (e : Entry) : Reordered e e
  | directory {names names' : List String} (h : names.Perm names') :
    Reordered (.directory names) (.directory names')

namespace Storage

/-- The same files, but directories may list their names in another order. -/
def Reordered (files files' : Storage) : Prop :=
  ∀ path, (files.look path).Reordered (files'.look path)

variable {files files' : Storage}

theorem Reordered.isFile_eq (h : files.Reordered files') (path : String) :
    files'.isFile path = files.isFile path := by
  have hpath := h path
  unfold isFile
  generalize files.look path = e, files'.look path = e' at hpath
  cases hpath <;> rfl

theorem Reordered.readText_eq (h : files.Reordered files') (path : String) :
    files'.readText path = files.readText path := by
  have hpath := h path
  unfold readText
  generalize files.look path = e, files'.look path = e' at hpath
  cases hpath <;> rfl

end Storage

namespace Catalog
variable {c c' : Catalog} {files files' : Storage} {path : String} {names : List String}
  {paths : List String} {batch rest : List Experience} {err : Error} {n : Nat}

theorem readFile_eq_of_reordered (h : files.Reordered files') (path : String) :
    readFile files' path = readFile files path := by
  rw [readFile, h.readText_eq, readFile]

theorem readFiles_eq_of_reordered (h : files.Reordered files') (paths : List String) :
    readFiles files' paths = readFiles files paths := by
  induction paths with
  | nil => rfl
  | cons path paths ih => rw [readFiles, readFile_eq_of_reordered h, ih, readFiles]

theorem isDocument_eq_of_reordered (h : files.Reordered files') (path : String) :
    isDocument files' path = isDocument files path := by
  funext name
  rw [isDocument, h.isFile_eq, isDocument]

/-- **The order of the listing does not matter.** -/
theorem loadDirectory_eq_of_reordered (h : files.Reordered files') (path : String)
    (c : Catalog) : c.loadDirectory files' path = c.loadDirectory files path := by
  have hdocs : ∀ {names names' : List String}, names.Perm names' →
      documentsIn files' path names' = documentsIn files path names := by
    intro names names' hperm
    rw [documentsIn_eq, documentsIn_eq, documentNames_eq_of_perm hperm]
    unfold documentNames
    rw [isDocument_eq_of_reordered h]
  have hpath := h path
  unfold loadDirectory
  generalize files.look path = e, files'.look path = e' at hpath
  cases hpath with
  | same e =>
    cases e with
    | directory names => simp only [hdocs (List.Perm.refl names), readFiles_eq_of_reordered h]
    | refused fault => rfl
    | file content => rfl
    | special content => rfl
  | directory hperm => simp only [hdocs hperm, readFiles_eq_of_reordered h]

/-! ## Reading the documents -/

theorem readFiles_cons (files : Storage) (path : String) (paths : List String) :
    readFiles files (path :: paths) = (readFile files path).bind fun batch =>
      (readFiles files paths).map (batch ++ ·) := by
  rw [readFiles]
  cases readFile files path with
  | error err => rfl
  | ok batch => cases readFiles files paths <;> rfl

/-- What several files hold is what each of them holds, one after another. -/
theorem readFiles_eq_ok_iff : readFiles files paths = .ok batch ↔
    ∃ batches : List (List Experience),
      paths.map (readFile files) = batches.map .ok ∧ batch = batches.flatten := by
  induction paths generalizing batch with
  | nil =>
    constructor
    · intro h
      cases h
      exact ⟨[], rfl, rfl⟩
    · rintro ⟨batches, h, rfl⟩
      rw [List.map_nil, eq_comm, List.map_eq_nil_iff] at h
      rw [h]
      rfl
  | cons path paths ih =>
    rw [readFiles_cons, List.map_cons]
    constructor
    · intro h
      cases hfirst : readFile files path with
      | error err => rw [hfirst] at h; cases h
      | ok first =>
        cases hrest : readFiles files paths with
        | error err => rw [hfirst, hrest] at h; cases h
        | ok rest =>
          rw [hfirst, hrest] at h
          cases h
          obtain ⟨batches, hbatches, rfl⟩ := ih.mp hrest
          exact ⟨first :: batches, by rw [hbatches, List.map_cons], rfl⟩
    · rintro ⟨batches, hbatches, rfl⟩
      cases batches with
      | nil => cases hbatches
      | cons first batches =>
        obtain ⟨hfirst, hrest⟩ := List.cons.inj hbatches
        rw [hfirst, Except.bind, ih.mpr ⟨batches, hrest, rfl⟩]
        rfl

/-- Of several files the first that cannot be read decides. -/
theorem readFiles_eq_error_iff : readFiles files paths = .error err ↔
    ∃ before path after, paths = before ++ path :: after ∧
      (∀ q ∈ before, ∃ batch, readFile files q = .ok batch) ∧
      readFile files path = .error err := by
  induction paths with
  | nil =>
    refine iff_of_false nofun ?_
    rintro ⟨before, path, after, h, -⟩
    cases before <;> cases h
  | cons p ps ih =>
    rw [readFiles_cons]
    cases hp : readFile files p with
    | error err' =>
      constructor
      · intro h
        exact ⟨[], p, ps, rfl, nofun, hp.trans h⟩
      · rintro ⟨before, path, after, hsplit, hbefore, herr⟩
        cases before with
        | nil =>
          rw [← (List.cons.inj hsplit).1, hp] at herr
          exact herr
        | cons b bs =>
          obtain ⟨batch, hb⟩ := hbefore b (by simp)
          rw [← (List.cons.inj hsplit).1, hp] at hb
          cases hb
    | ok batch =>
      have hrest : ((readFiles files ps).map (batch ++ ·)) = .error err ↔
          readFiles files ps = .error err := by
        cases readFiles files ps <;> simp [Except.map]
      rw [Except.bind, hrest, ih]
      constructor
      · rintro ⟨before, path, after, rfl, hbefore, herr⟩
        refine ⟨p :: before, path, after, rfl, ?_, herr⟩
        exact List.forall_mem_cons.mpr ⟨⟨batch, hp⟩, hbefore⟩
      · rintro ⟨before, path, after, hsplit, hbefore, herr⟩
        cases before with
        | nil =>
          rw [← (List.cons.inj hsplit).1, hp] at herr
          cases herr
        | cons b bs =>
          exact ⟨bs, path, after, (List.cons.inj hsplit).2,
            (List.forall_mem_cons.mp hbefore).2, herr⟩

/-! ## Loading the documents one after another -/

/-- Loads files one after another, up to the first that fails, and adds up how many
experiences that were. -/
def loadEach (files : Storage) : List String → Catalog → Except Error (Nat × Catalog)
  | [], c => .ok (0, c)
  | path :: paths, c => do
    let (n, c) ← (c.loadFile files path).result
    let (m, c) ← loadEach files paths c
    return (n + m, c)

theorem loadEach_cons (files : Storage) (path : String) (paths : List String) (c : Catalog) :
    loadEach files (path :: paths) c = (c.loadFile files path).result.bind fun r =>
      (loadEach files paths r.2).map fun q => (r.1 + q.1, q.2) := by
  rw [loadEach]
  cases (c.loadFile files path).result with
  | error err => rfl
  | ok r =>
    show ((loadEach files paths r.2).bind fun q => .ok (r.1 + q.1, q.2)) =
      (loadEach files paths r.2).map fun q => (r.1 + q.1, q.2)
    cases loadEach files paths r.2 <;> rfl

/-- Two batches as one. -/
theorem extend_append (c : Catalog) (batch rest : List Experience) :
    c.extend (batch ++ rest) = (c.extend batch).bind fun r =>
      (r.2.extend rest).map fun q => (r.1 + q.1, q.2) := by
  rw [extend_eq_addEach, extend_eq_addEach, addEach_append]
  cases c.addEach batch with
  | error err => rfl
  | ok c₁ =>
    show (c₁.addEach rest).map _ = (c₁.extend rest).map _
    rw [extend_eq_addEach]
    cases c₁.addEach rest with
    | error err => rfl
    | ok c₂ => simp [Except.map]

/-- **Documents loaded one after another** come to what they come to as one batch, as
long as nothing fails. -/
theorem loadEach_eq_ok_iff : loadEach files paths c = .ok (n, c') ↔
    (readFiles files paths).bind c.extend = .ok (n, c') := by
  induction paths generalizing c c' n with
  | nil => rfl
  | cons path paths ih =>
    rw [loadEach_cons, Call.result_loadFile, readFiles_cons]
    cases readFile files path with
    | error err => rfl
    | ok batch =>
      show ((c.extend batch).bind fun r =>
          (loadEach files paths r.2).map fun q => (r.1 + q.1, q.2)) = .ok (n, c') ↔
        ((readFiles files paths).map (batch ++ ·)).bind c.extend = .ok (n, c')
      cases hrest : readFiles files paths with
      | error err =>
        -- the first batch may have been added by then, but a later file cannot be read
        refine iff_of_false ?_ nofun
        cases c.extend batch with
        | error err => exact nofun
        | ok r =>
          intro h
          obtain ⟨q, hq, -⟩ := map_eq_ok_iff.mp h
          rw [ih, hrest] at hq
          cases hq
      | ok rest =>
        show _ ↔ c.extend (batch ++ rest) = .ok (n, c')
        rw [extend_append]
        cases c.extend batch with
        | error err => rfl
        | ok r =>
          show (loadEach files paths r.2).map (fun q => (r.1 + q.1, q.2)) = .ok (n, c') ↔
            (r.2.extend rest).map (fun q => (r.1 + q.1, q.2)) = .ok (n, c')
          rw [map_eq_ok_iff, map_eq_ok_iff]
          refine exists_congr fun q => and_congr_left' ?_
          rw [ih, hrest]
          rfl

/-- A directory is its documents, read and added as one batch. -/
theorem result_loadDirectory_of_look (hdir : files.look path = .directory names) (c : Catalog) :
    (c.loadDirectory files path).result =
      (readFiles files (documentsIn files path names)).bind c.extend := by
  rw [Call.result_loadDirectory, Call.directoryBatch, hdir]

/-- What a directory is answered by if it fails. -/
theorem Consistent.bind_extend_eq_error_iff (hc : c.Consistent) :
    (readFiles files paths).bind c.extend = .error err ↔
      (∃ before path after, paths = before ++ path :: after ∧
        (∀ q ∈ before, ∃ batch, readFile files q = .ok batch) ∧
        readFile files path = .error err) ∨
      ∃ batches : List (List Experience), paths.map (readFile files) = batches.map .ok ∧
        ∃ before e after, batches.flatten = before ++ e :: after ∧
          c.Fits before ∧ Fault (c.toList ++ before) e err := by
  rw [← readFiles_eq_error_iff]
  cases h : readFiles files paths with
  | error err' =>
    have hnone : ¬ ∃ batches : List (List Experience),
        paths.map (readFile files) = batches.map .ok := by
      rintro ⟨batches, hbatches⟩
      rw [readFiles_eq_ok_iff.mpr ⟨batches, hbatches, rfl⟩] at h
      cases h
    constructor
    · intro herr
      exact Or.inl (congrArg _ (Except.error.inj herr))
    · rintro (herr | ⟨batches, hbatches, -⟩)
      · exact congrArg _ (Except.error.inj herr)
      · exact absurd ⟨batches, hbatches⟩ hnone
  | ok batch =>
    show c.extend batch = .error err ↔ _
    rw [hc.extend_eq_error_iff]
    constructor
    · intro hfault
      obtain ⟨batches, hbatches, rfl⟩ := readFiles_eq_ok_iff.mp h
      exact Or.inr ⟨batches, hbatches, hfault⟩
    · rintro (herr | ⟨batches, hbatches, hfault⟩)
      · cases herr
      · rw [readFiles_eq_ok_iff.mpr ⟨batches, hbatches, rfl⟩] at h
        cases h
        exact hfault

end Catalog

namespace Session
open Catalog Text

/-- **Directories.**  After any calls on a new catalog, the load of a directory has
the same outcome in whatever order the directory lists its names.  What counts are
the names that end in `.json`, with something before it, and lead to a regular file,
each once and in the order of their bytes.  The load succeeds exactly if loading
these documents one after another does, and then with the sum of their answers and
the same catalog.  It fails with the error of the first of them that cannot be read or
decoded; if there is none, with the first fault in what they hold together, an id that
is blank or taken.  Then the catalog stays as it was. -/
theorem loadDirectory_as_loadEach (calls : List Call) (files : Storage) (path : String)
    {names : List String} (hdir : files.look path = .directory names) :
    let s := ofCalls calls
    let docs := documentNames files path names
    let paths := docs.map (Storage.join path)
    (∀ files', files.Reordered files' →
      s.catalog.loadDirectory files' path = s.catalog.loadDirectory files path) ∧
    docs.Perm (names.filter (isDocument files path)) ∧
    (∀ name, isDocument files path name = true ↔
      (∃ stem, stem ≠ "" ∧ name = stem ++ ".json") ∧
        files.isFile (Storage.join path name) = true) ∧
    docs.Pairwise (fun a b => utf8 a ≤ utf8 b) ∧
    (∀ n c', (s.catalog.loadDirectory files path).result = .ok (n, c') ↔
      loadEach files paths s.catalog = .ok (n, c')) ∧
    (∀ err, (s.catalog.loadDirectory files path).result = .error err ↔
      (∃ before doc after, paths = before ++ doc :: after ∧
        (∀ d ∈ before, ∃ batch, readFile files d = .ok batch) ∧
        readFile files doc = .error err) ∨
      ∃ batches : List (List Experience), paths.map (readFile files) = batches.map .ok ∧
        ∃ before e after, batches.flatten = before ++ e :: after ∧
          s.catalog.Fits before ∧ Fault (s.catalog.toList ++ before) e err) ∧
    ∀ err, (s.catalog.loadDirectory files path).result = .error err →
      (s.make (.loadDirectory files path)).catalog = s.catalog := by
  intro s docs paths
  have hc : s.catalog.Consistent := (sound_ofCalls calls).consistent
  have hload := result_loadDirectory_of_look hdir s.catalog
  refine ⟨?_, documentNames_perm files path names, fun _ => isDocument_eq_true_iff, ?_, ?_, ?_,
    ?_⟩
  · intro files' hfiles
    exact loadDirectory_eq_of_reordered hfiles path s.catalog
  · exact (pairwise_documentNames files path names).imp le_iff_utf8_le.mp
  · intro n c'
    rw [hload, loadEach_eq_ok_iff]
    rfl
  · intro err
    rw [hload]
    exact hc.bind_extend_eq_error_iff
  · intro err h
    have hrun : (Call.loadDirectory files path).run s.catalog = .error err := h
    rw [make_of_error hrun]

/-! ### A shelf with an unreadable document -/

namespace Shelf

def names : List String := ["b.json", "notes.txt", "a.json"]

/-- The experience in the first document has a blank id; the second cannot be read. -/
def files : Storage where
  look path :=
    if path = "shelf" then .directory names
    else if path = "shelf/a.json" then .file (.ok "{}".toUTF8)
    else if path = "shelf/b.json" then .file (.error (.other "Permission denied (os error 13)"))
    else .refused .notFound

theorem documents : (documentNames files "shelf" names).map (Storage.join "shelf") =
    ["shelf/a.json", "shelf/b.json"] := by
  have hfilter : names.filter (isDocument files "shelf") = ["b.json", "a.json"] := by
    decide +kernel
  have hnames : ["a.json", "b.json"] = documentNames files "shelf" names :=
    eq_documentNames (by decide) (by rw [hfilter]; exact List.Perm.swap _ _ _)
  rw [← hnames]
  decide +kernel

end Shelf

/-- The load of the shelf reports the document that cannot be read, and not the blank
id before it. -/
theorem loadDirectory_as_loadEach_shelf :
    Shelf.files.look "shelf" = .directory Shelf.names ∧
    ((ofCalls []).catalog.loadDirectory Shelf.files "shelf").result =
      .error (.experienceLoad "shelf/b.json" "Permission denied (os error 13)") := by
  obtain ⟨-, -, -, -, -, hfail, -⟩ := loadDirectory_as_loadEach [] Shelf.files "shelf" rfl
  refine ⟨rfl, (hfail _).mpr (Or.inl ⟨["shelf/a.json"], "shelf/b.json", [], ?_, ?_, rfl⟩)⟩
  · exact Shelf.documents
  · intro d hd
    rw [List.mem_singleton.mp hd]
    exact ⟨_, rfl⟩

end Session

end IntentSelect
