import IntentSelect.Error

/-!
# Storage

Files as the library sees them: what stands at a path.  A directory lists the names in it, in
whatever order the system enumerates them.  Reading a file may fail although it is there.
-/
namespace IntentSelect

/-- What stands at a path. -/
inductive Entry where
  | refused (fault : FileFault)
  /-- A regular file, and what comes of reading it. -/
  | file (content : Except FileFault ByteArray)
  /-- Something else that can be read, such as a pipe. -/
  | special (content : Except FileFault ByteArray)
  | directory (names : List String)

/-- Files and directories by path. -/
structure Storage where
  look : String → Entry

namespace Storage

/-- The path of a name in a directory. -/
def join (directory name : String) : String :=
  if directory.isEmpty || directory.endsWith "/" then directory ++ name
  else directory ++ "/" ++ name

def isDirectory (s : Storage) (path : String) : Bool :=
  match s.look path with
  | .directory _ => true
  | _ => false

def isFile (s : Storage) (path : String) : Bool :=
  match s.look path with
  | .file _ => true
  | _ => false

/-- What a content says, if it is a text. -/
def textOf (content : Except FileFault ByteArray) : Except FileFault String := do
  let bytes ← content
  match String.fromUTF8? bytes with
  | some text => .ok text
  | none => .error .notText

/-- The text of a file. -/
def readText (s : Storage) (path : String) : Except FileFault String :=
  match s.look path with
  | .refused fault => .error fault
  | .directory _ => .error .isDirectory
  | .file content | .special content => textOf content

/-- What follows the last point of a name, unless the name begins with it. -/
def extension? (name : String) : Option String :=
  let cs := name.toList
  let after := (cs.reverse.takeWhile (· != '.')).reverse
  let before := cs.take (cs.length - after.length - 1)
  if name = ".." ∨ after.length = cs.length ∨ before = [] then none else some (String.ofList after)

end Storage

end IntentSelect
