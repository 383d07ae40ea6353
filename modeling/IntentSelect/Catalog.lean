import IntentSelect.Experience
import IntentSelect.Storage
import IntentSelect.Trace
import Std.Data.HashMap

/-!
# Catalogs

A catalog holds experiences in the order in which they were added, each under an id of its own.
Experiences come in batches, from texts, files or directories; a batch is added as a whole or, if
anything is wrong with it, not at all.
-/
namespace IntentSelect

open Json Text

/-- Experiences in the order of adding, and the place of each by id. -/
structure Catalog where
  experiences : Array Experience := #[]
  index : Std.HashMap String Nat := {}

namespace Catalog

def empty : Catalog := {}

def size (c : Catalog) : Nat := c.experiences.size

def isEmpty (c : Catalog) : Bool := c.experiences.isEmpty

def toList (c : Catalog) : List Experience := c.experiences.toList

/-- The place of an id. -/
def indexOf? (c : Catalog) (id : String) : Option Nat := c.index[id]?

/-- The experience with an id. -/
def get? (c : Catalog) (id : String) : Option Experience :=
  (c.indexOf? id).bind fun i => c.experiences[i]?

/-- The experiences that are enabled, in order. -/
def candidates (c : Catalog) : List Experience := c.toList.filter Experience.isEnabled

/-! ## Adding -/

/-- Checks the ids of a batch: none may be blank, in the catalog already, or among those seen before
in the batch. -/
def check (c : Catalog) (seen : List String) : List Experience → Except Error Unit
  | [] => .ok ()
  | e :: es =>
    if hasText e.id then
      if c.index.contains e.id || seen.contains e.id then .error (.duplicateExperience e.id)
      else check c (e.id :: seen) es
    else .error (.blankId e.title)

/-- Adds an experience at the end. -/
def push (c : Catalog) (e : Experience) : Catalog where
  experiences := c.experiences.push e
  index := c.index.insert e.id c.experiences.size

/-- Adds a batch and says how many experiences that were. -/
def extend (c : Catalog) (batch : List Experience) : Except Error (Nat × Catalog) := do
  c.check [] batch
  return (batch.length, batch.foldl push c)

/-- Adds one experience. -/
def add (c : Catalog) (e : Experience) : Except Error Catalog :=
  (c.extend [e]).map Prod.snd

/-- The catalog of a batch. -/
def ofList (batch : List Experience) : Except Error Catalog :=
  (empty.extend batch).map Prod.snd

/-! ## Loading -/

/-- The experiences in a document, which is one of them or an array. -/
def decodeDocument (v : Value) : Except Error (List Experience) :=
  match v with
  | .array _ => (Experience.decodeList v).mapError .json
  | .object _ => (Experience.decode v).mapError .json |>.map ([·])
  | v => .error (.notExperiences v)

/-- The experiences in a text. -/
def readText (text : String) : Except Error (List Experience) := do
  let v ← (Value.parse text).mapError .json
  decodeDocument v

/-- The experiences in a file.  What is wrong with its format is told together with its path. -/
def readFile (files : Storage) (path : String) : Except Error (List Experience) := do
  let text ← (files.readText path).mapError fun fault => .experienceLoad path fault.message
  (readText text).mapError fun e =>
    match e with
    | .json refusal => .experienceLoad path refusal.message
    | e => e

/-- Adds the experiences in a text. -/
def loadText (c : Catalog) (text : String) : Except Error (Nat × Catalog) := do
  let batch ← readText text
  c.extend batch

/-- Adds the experiences in a file. -/
def loadFile (files : Storage) (path : String) (c : Catalog) :
    Traced (Except Error (Nat × Catalog)) :=
  match readFile files path with
  | .error e => return .error e
  | .ok batch =>
    match c.extend batch with
    | .error e => return .error e
    | .ok (count, c) => do
      Traced.log (.fileLoaded path count)
      return .ok (count, c)

/-- The paths of the files in a directory that hold experiences, in order of their names. -/
def documentsIn (files : Storage) (path : String) (names : List String) : List String :=
  let documents := names.filter fun name =>
    Storage.extension? name == some "json" && files.isFile (Storage.join path name)
  (documents.mergeSort fun a b => decide (a ≤ b)).map (Storage.join path)

/-- The experiences in several files, up to the first that cannot be read. -/
def readFiles (files : Storage) : List String → Except Error (List Experience)
  | [] => .ok []
  | path :: paths => do
    let batch ← readFile files path
    let rest ← readFiles files paths
    return batch ++ rest

/-- Adds the experiences in all files of a directory, as one batch. -/
def loadDirectory (files : Storage) (path : String) (c : Catalog) :
    Traced (Except Error (Nat × Catalog)) :=
  match files.look path with
  | .directory names =>
    let paths := documentsIn files path names
    match (readFiles files paths).bind c.extend with
    | .error e => return .error e
    | .ok (count, c) => do
      Traced.log (.directoryLoaded path paths.length count)
      return .ok (count, c)
  | _ => return .error (.experienceLoad path "Not a directory")

/-- Adds what is found at a path, a file or a directory. -/
def loadPath (files : Storage) (path : String) (c : Catalog) :
    Traced (Except Error (Nat × Catalog)) :=
  if files.isDirectory path then c.loadDirectory files path else c.loadFile files path

end Catalog

end IntentSelect
