import Hanyu.CommandLine.Program

/-!
# The command

Runs the program on the arguments of the process and on the files around it.
-/

namespace Hanyu

/-- The paths that a command line asks to be read, with what is found under each. -/
abbrev FileTable := List (Text × Except CommandLine.Unreadable ByteArray)

/-- The paths that an invocation reads. -/
def pathsOf (invocation : CommandLine.Invocation) : List Text :=
  invocation.settings.toList ++
    match invocation.command with
    | .run options => [options.lexicon]
    | .validateSettings file => [file]
    | .validateLexicon file => [file]
    | _ => []

/-- What is found under a path. -/
def readPath (path : Text) : IO (Except CommandLine.Unreadable ByteArray) := do
  try
    return .ok (← IO.FS.readBinFile (String.ofList path))
  catch error =>
    return .error <| match error with
      | .noFileOrDirectory .. => .missing
      | .inappropriateType _ 20 _ => .notDirectory
      | .inappropriateType _ 21 _ => .directory
      | .invalidArgument _ 36 _ => .nameTooLong
      | other => .other (toString other)

/-- What is found under all paths that a command line asks to be read. -/
def readPaths (arguments : List Text) : IO FileTable := do
  match CommandLine.parse arguments with
  | .error _ => return []
  | .ok invocation =>
    (pathsOf invocation).mapM fun path => do return (path, ← readPath path)

end Hanyu

/-- Runs the program on the arguments of the process. -/
def main (arguments : List String) : IO UInt32 := do
  let arguments := arguments.map String.toList
  let table ← Hanyu.readPaths arguments
  let files : Hanyu.CommandLine.Files := fun path => (table.lookup path).getD (.error .missing)
  let response := Hanyu.CommandLine.respond files arguments
  IO.print (String.ofList response.output)
  IO.eprint (String.ofList response.errors)
  return response.code
