import SearchIndex.CommandLine.Program

/-!
The inspection tool as a program: its tasks run on disk, and what comes out is printed.
-/

namespace SearchIndex

/-- Reads a text file from disk. -/
def readFromDisk (path : String) : IO (Except ReadFailure String) := do
  try
    match String.fromUTF8? (← IO.FS.readBinFile path) with
    | some text => return .ok text
    | none => return .error .unreadable
  catch
    | .noFileOrDirectory .. => return .error .missing
    | _ => return .error .unreadable

/-- The directory above a path. -/
def directoryOf (path : String) : String :=
  .ofList ((path.toList.reverse.dropWhile (· ≠ '/')).drop 1).reverse

/-- Creates a text file on disk. -/
def createOnDisk (path text : String) : IO Bool := do
  try
    if directoryOf path ≠ "" then IO.FS.createDirAll (directoryOf path)
    IO.FS.writeFile path text
    return true
  catch _ => return false

/-- Runs a task on disk. -/
def FileTask.perform {α : Type} : FileTask α → IO α
  | .done result => return result
  | .read path next => do (next (← readFromDisk path)).perform
  | .create path text next => do (next (← createOnDisk path text)).perform

/-- The variables of the environment that matter. -/
def readEnvironment : IO Location.Environment := do
  let names := [Location.overrideVariable, "XDG_CONFIG_HOME", "HOME", "TMPDIR"]
  let values ← names.mapM fun name => do return (name, ← IO.getEnv name)
  return fun name => (values.lookup name).join

end SearchIndex

open SearchIndex in
/-- Runs the tool with the words of its command line. -/
def main (words : List String) : IO UInt32 := do
  let ending ← (CommandLine.run (← readEnvironment) words).perform
  IO.print ending.output
  match ending with
  | .success _ => pure ()
  | .failure causes => causes.forM fun cause => IO.eprintln cause.message
  | .misuse => IO.eprintln (CommandLine.grammar.help .program)
  return ending.exitCode.toUInt32
