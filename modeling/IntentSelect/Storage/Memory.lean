import IntentSelect.Storage

/-!
# Storage in memory

Files and directories given as a list: the names that lead to each, and the content of a file or
nothing for a directory.  Directories on the way to an entry need no entry of their own.  A path is
followed name by name from the top directory; `.` and `..` have their usual meaning, and nothing
lies above the top.
-/
namespace IntentSelect

/-- Files with their content, and directories, by the names that lead to them. -/
structure Memory where
  entries : List (List String × Option ByteArray)

namespace Memory

/-- What stands where names lead to. -/
def entryAt (m : Memory) (names : List String) : Entry :=
  match m.entries.lookup names with
  | some (some content) => .file (.ok content)
  | _ =>
    let below := m.entries.filter fun e => names.isPrefixOf e.1
    if names.isEmpty || !below.isEmpty then
      .directory (below.filterMap fun e => e.1[names.length]?).eraseDups
    else .refused .notFound

/-- The names that lead to where a path ends, from a place where other names lead to. -/
def follow (m : Memory) (names : List String) : List String → Except FileFault (List String)
  | [] => .ok names
  | step :: steps =>
    match m.entryAt names with
    | .refused fault => .error fault
    | .file _ | .special _ => .error .notDirectory
    | .directory _ =>
      if step = "" ∨ step = "." then follow m names steps
      else if step = ".." then follow m names.dropLast steps
      else follow m (names ++ [step]) steps

/-- The names in a path. -/
def steps (path : String) : List String := path.splitOn "/"

def storage (m : Memory) : Storage where
  look path :=
    if path.isEmpty || path.startsWith "/" then .refused .notFound
    else
      match m.follow [] (steps path) with
      | .ok names => m.entryAt names
      | .error fault => .refused fault

end Memory

end IntentSelect
