import ApiCompiler.CommandLine
import ApiCompiler.Watch

/-!
# The program

Reads the definition files that a command names, carries out the command, and writes what it
changed.
-/

open ApiCompiler

/-- The disk as far as a command needs it: the working directory and the named files. -/
def readDisk (home : String) (files : List String) : IO Disk :=
  files.foldlM (fun disk (file : String) => do
    try
      let text ← IO.FS.readFile file
      let path := disk.absolute file
      return match disk.makeDirectories (Path.directory path) with
        | .ok disk => disk.put path (.file 0o644 text)
        | .error _ => disk
    catch _ => return disk) (Disk.new home)

/-- Writes the files that a command added or changed. -/
def writeDisk (before after : Disk) : IO Unit :=
  after.entries.toList.forM fun (path, entry) => do
    match entry with
    | .file _ text =>
      if before.get? path != some entry then
        IO.FS.createDirAll (Path.directory path)
        let temporary := Path.directory path ++ "/.cytonic.tmp"
        IO.FS.writeFile temporary text
        IO.FS.rename temporary path
    | .directory => pure ()

/-- Prints the records of a log. -/
def printLog (verbose : Bool) (log : List LogRecord) : IO Unit :=
  log.forM fun r => do
    if verbose || r.level != "DEBUG" then IO.eprintln r.line

/-- Prints a failure and its hints. -/
def printFault (e : Error) : IO Unit := do
  IO.eprintln ("cytonic: error: " ++ e.message)
  e.hints.forM fun hint => IO.eprintln ("hint: " ++ hint)

/-- Carries out a command once. -/
def runOnce (verbose : Bool) (disk : Disk) (r : CommandRun) : IO UInt32 := do
  IO.print r.stdout
  writeDisk disk r.disk
  printLog verbose r.log
  match r.fault with
  | none => return 0
  | some e =>
    printFault e
    return 1

/-- Generates again whenever a file has changed. -/
partial def watchFiles (verbose : Bool) (home : String) (c : GenerateCommand)
    (g : Generation) (last : Option Disk) : IO UInt32 := do
  let disk ← readDisk home c.files
  if last.any fun l => l.entries == disk.entries then
    IO.sleep 200
    watchFiles verbose home c g last
  else
    match Watch.generate g disk c.files c.output with
    | .error e =>
      printFault e
      return 1
    | .ok r =>
      writeDisk disk r.disk
      printLog verbose r.log
      watchFiles verbose home c g (some disk)

def main (words : List String) : IO UInt32 := do
  let home := (← IO.currentDir).toString
  match CommandLine.parse words with
  | .error e =>
    printFault e
    return 1
  | .ok (.check c, verbose) =>
    let disk ← readDisk home c.files
    runOnce verbose disk (c.run disk)
  | .ok (.generate c, verbose) =>
    match c.watch && c.conflict.isNone, Options.parse c.options with
    | true, .ok options => watchFiles verbose home c ⟨c.targets, options, false⟩ none
    | _, _ =>
      let disk ← readDisk home c.files
      runOnce verbose disk (c.run disk)
