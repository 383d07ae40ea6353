import IntentSelect.Catalog
import IntentSelect.Proofs.ByteOrder
import Mathlib.Data.List.TakeWhile

/-! # The documents in a directory

A directory lists names in no particular order.  Those that count are the names of
documents: they end in `.json`, with something before it, and lead to a regular file
(`isDocument_eq_true_iff`).  A load takes them in the order of their names, which is
that of the bytes of the names, so the order of the listing does not matter
(`documentNames_eq_of_perm`).
-/
namespace IntentSelect
namespace Storage

/-! ## Extensions -/

/-- What follows the last point. -/
theorem takeWhile_reverse_of_split {before after : List Char} (h : '.' ∉ after) :
    ((before ++ '.' :: after).reverse.takeWhile (· != '.')).reverse = after := by
  rw [List.reverse_append, List.reverse_cons, List.append_assoc, List.singleton_append,
    List.takeWhile_append_of_pos, List.takeWhile_cons_of_neg (by decide), List.append_nil,
    List.reverse_reverse]
  intro c hc
  rw [bne_iff_ne]
  rintro rfl
  exact h (List.mem_reverse.mp hc)

/-- A list with a point in it has a last one. -/
theorem exists_last_point {l : List Char} (h : '.' ∈ l) :
    ∃ before after, l = before ++ '.' :: after ∧ '.' ∉ after := by
  induction l with
  | nil => cases h
  | cons c cs ih =>
    by_cases hcs : '.' ∈ cs
    · obtain ⟨before, after, rfl, hafter⟩ := ih hcs
      exact ⟨c :: before, after, rfl, hafter⟩
    · rcases List.mem_cons.mp h with rfl | h
      · exact ⟨[], cs, rfl, hcs⟩
      · exact absurd h hcs

theorem extension?_of_split {name : String} {before after : List Char}
    (hname : name.toList = before ++ '.' :: after) (h : '.' ∉ after) :
    extension? name =
      if name = ".." ∨ before = [] then none else some (String.ofList after) := by
  have hlen : (before ++ '.' :: after).length - after.length - 1 = before.length := by
    simp only [List.length_append, List.length_cons]
    omega
  have hne : after.length ≠ (before ++ '.' :: after).length := by
    simp only [List.length_append, List.length_cons]
    omega
  simp only [extension?, hname, takeWhile_reverse_of_split h, hlen, hne, List.take_left',
    false_or]

theorem extension?_of_no_point {name : String} (h : '.' ∉ name.toList) :
    extension? name = none := by
  have hall : (name.toList.reverse.takeWhile (· != '.')).reverse = name.toList := by
    rw [List.takeWhile_eq_self_iff.mpr, List.reverse_reverse]
    intro c hc
    rw [bne_iff_ne]
    rintro rfl
    exact h (List.mem_reverse.mp hc)
  simp only [extension?, hall, true_or, or_true, if_true]

/-- **Extensions.**  A name has an extension exactly if it is made of something that
is not empty, a point, and the extension, which holds no further point. -/
theorem extension?_eq_some_iff {name ext : String} : extension? name = some ext ↔
    name ≠ ".." ∧ '.' ∉ ext.toList ∧ ∃ stem, stem ≠ "" ∧ name = stem ++ "." ++ ext := by
  constructor
  · intro h
    by_cases hpoint : '.' ∈ name.toList
    · obtain ⟨before, after, hname, hafter⟩ := exists_last_point hpoint
      rw [extension?_of_split hname hafter] at h
      split at h
      · cases h
      · rename_i hnot
        rw [not_or] at hnot
        cases h
        refine ⟨hnot.1, by simpa using hafter, String.ofList before, ?_, ?_⟩
        · simpa using hnot.2
        · rw [← String.toList_inj]
          simp [hname]
    · rw [extension?_of_no_point hpoint] at h
      cases h
  · rintro ⟨hdots, hext, stem, hstem, rfl⟩
    have hname : (stem ++ "." ++ ext).toList = stem.toList ++ '.' :: ext.toList := by simp
    rw [extension?_of_split hname hext, if_neg, String.ofList_toList]
    rw [not_or]
    exact ⟨hdots, by simpa using hstem⟩

end Storage

namespace Catalog
variable {files : Storage} {path : String} {names names' : List String}

/-! ## Documents -/

/-- A name in a directory is that of a document: its extension is `json`, and it
leads to a regular file. -/
def isDocument (files : Storage) (path name : String) : Bool :=
  Storage.extension? name == some "json" && files.isFile (Storage.join path name)

theorem isDocument_eq_true_iff {name : String} : isDocument files path name = true ↔
    (∃ stem, stem ≠ "" ∧ name = stem ++ ".json") ∧
      files.isFile (Storage.join path name) = true := by
  have hext : Storage.extension? name = some "json" ↔
      ∃ stem, stem ≠ "" ∧ name = stem ++ ".json" := by
    rw [Storage.extension?_eq_some_iff]
    constructor
    · rintro ⟨-, -, stem, hstem, rfl⟩
      exact ⟨stem, hstem, by rw [String.append_assoc]; rfl⟩
    · rintro ⟨stem, hstem, rfl⟩
      refine ⟨?_, by decide, stem, hstem, by rw [String.append_assoc]; rfl⟩
      intro h
      have hlen : stem.length + 5 = 2 := by
        have hlen := congrArg String.length h
        rwa [String.length_append] at hlen
      omega
  rw [isDocument, Bool.and_eq_true, beq_iff_eq, hext]

/-- The names of the documents among the names that a directory lists, in order. -/
def documentNames (files : Storage) (path : String) (names : List String) : List String :=
  (names.filter (isDocument files path)).mergeSort fun a b => decide (a ≤ b)

theorem documentsIn_eq (files : Storage) (path : String) (names : List String) :
    documentsIn files path names = (documentNames files path names).map (Storage.join path) :=
  rfl

theorem documentNames_perm (files : Storage) (path : String) (names : List String) :
    (documentNames files path names).Perm (names.filter (isDocument files path)) :=
  List.mergeSort_perm _ _

theorem pairwise_documentNames (files : Storage) (path : String) (names : List String) :
    (documentNames files path names).Pairwise (· ≤ ·) := by
  have hsorted : (documentNames files path names).Pairwise fun a b => decide (a ≤ b) = true := by
    refine List.pairwise_mergeSort ?_ ?_ _
    · intro a b c hab hbc
      rw [decide_eq_true_iff] at hab hbc ⊢
      exact String.le_trans hab hbc
    · intro a b
      rw [Bool.or_eq_true, decide_eq_true_iff, decide_eq_true_iff]
      exact String.le_total a b
  exact hsorted.imp of_decide_eq_true

/-- The documents in order are the only order of them that ascends. -/
theorem eq_documentNames {docs : List String} (hsorted : docs.Pairwise (· ≤ ·))
    (hperm : docs.Perm (names.filter (isDocument files path))) :
    docs = documentNames files path names :=
  (hperm.trans (documentNames_perm files path names).symm).eq_of_pairwise
    (fun _ _ _ _ => String.le_antisymm) hsorted (pairwise_documentNames files path names)

/-- The order of the listing does not matter. -/
theorem documentNames_eq_of_perm (h : names.Perm names') :
    documentNames files path names = documentNames files path names' :=
  eq_documentNames (pairwise_documentNames files path names)
    ((documentNames_perm files path names).trans (h.filter _))

end Catalog

end IntentSelect
