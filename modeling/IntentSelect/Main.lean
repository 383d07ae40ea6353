import IntentSelect.CommandLine.Run

/-!
# The program

Looks at the paths that a request names, and at what is in those that are directories, and leaves
the rest to `CommandLine.run`.
-/
namespace IntentSelect.CommandLine

/-- Why the system refuses a file. -/
def faultOf (e : IO.Error) : FileFault :=
  match e with
  | .noFileOrDirectory .. => .notFound
  | .inappropriateType .. => .notDirectory
  | .permissionDenied .. => .other "Permission denied (os error 13)"
  | e => .other (toString e)

/-- What stands at a path. -/
def entryOf (path : String) : IO Entry := do
  let place := (← IO.currentDir) / path
  try
    match (← place.metadata).type with
    | .dir => return .directory ((← place.readDir).toList.map fun d => d.fileName)
    | kind =>
      let content ← try
        let bytes ← IO.FS.readBinFile place
        pure (.ok bytes)
      catch e => pure (.error (faultOf e))
      return if kind == .file then .file content else .special content
  catch e => return .refused (faultOf e)

/-- What stands at a path and, if that is a directory, at the paths in it. -/
def entriesFrom (path : String) : IO (List (String × Entry)) := do
  let entry ← entryOf path
  let names := match entry with
    | .directory names => names
    | _ => []
  let inside ← names.mapM fun name => do
    let path := Storage.join path name
    return (path, ← entryOf path)
  return (path, entry) :: inside

/-- The files that a request needs. -/
def filesFor (r : Request) : IO Storage := do
  let entries ← (r.experiences :: r.config.toList).mapM entriesFrom
  return ⟨fun path => (entries.flatten.lookup path).getD (.refused .notFound)⟩

end IntentSelect.CommandLine

open IntentSelect CommandLine in
def main (arguments : List String) : IO UInt32 := do
  let files ← match Request.ofArguments arguments with
    | .ok r => filesFor r
    | .error _ => pure ⟨fun _ => .refused .notFound⟩
  let response := run files arguments
  IO.print response.out
  IO.eprint response.err
  return response.status.toUInt32
