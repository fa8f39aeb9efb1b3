import ApiCompiler.Command

/-!
# Watching definition files

A watched run reports its outcome to the log instead of failing. Watching needs the directory of
every file to be there; the files themselves may come later.
-/

namespace ApiCompiler

/-- A watched run that is over: the disk, and all that was logged. -/
structure WatchRun where
  disk : Disk
  log : List LogRecord

namespace Watch

/-- The record of the outcome of a run. -/
def report : Option Error → LogRecord
  | some e => .generationFailed e
  | none => .generationFinished

/-- The directories of all files are there. -/
def checkDirectories (disk : Disk) (files : List String) : Except Error Unit :=
  files.forM fun file =>
    let directory := Path.directory (disk.absolute file)
    match disk.find directory with
    | .ok _ => .ok ()
    | .error obstacle => .error (obstacle.failure "watching" directory)

/-- One run of anything under watch. -/
def once (disk : Disk) (files : List String) (run : Disk → WatchRun × Option Error) :
    Except Error WatchRun := do
  checkDirectories disk files
  let (done, fault) := run disk
  return { done with log := done.log ++ [report fault] }

/-- One run of a generation into a directory under watch. -/
def generate (g : Generation) (disk : Disk) (files : List String) (output : String) :
    Except Error WatchRun :=
  if files.isEmpty then .error .watchWithoutFiles
  else once disk files fun disk =>
    let r := g.intoDirectory disk files output
    (⟨r.sink.diskOr disk, r.log⟩, r.fault)

end Watch

end ApiCompiler
