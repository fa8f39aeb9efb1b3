import ApiCompiler.Disk
import ApiCompiler.Output.PathRule
import ApiCompiler.Target.Output

/-!
# Files below a directory

A destination on the disk. A file is first written under a temporary name beside its target and
then put in place in one step, so that the target is at any time either the old file or the
complete new one. Every step can fail; a write that fails removes its temporary file.
-/

namespace ApiCompiler

open Text

/-- A directory that receives files, the mode of new files (0 for the usual one), and whether
present files are replaced. -/
structure Directory where
  root : String
  mode : Nat
  overwrite : Bool
deriving Repr

/-- A step of a write. -/
inductive WriteStep where
  | makeDirectories
  | createTemporary
  | fillTemporary
  | closeTemporary
  | setMode
  | putInPlace
deriving DecidableEq, Repr

namespace WriteStep

/-- The label of a step that failed. Putting a file in place is labelled by how it is done. -/
def label (overwrite : Bool) : WriteStep → String
  | makeDirectories => "creating directories"
  | createTemporary => "creating temp file"
  | fillTemporary => "writing temp file"
  | closeTemporary => "closing temp file"
  | setMode => "setting file mode"
  | putInPlace => if overwrite then "renaming temp file" else "creating file"

end WriteStep

/-- What happens to a write from the outside: whether it is cancelled before it begins or before
the file is put in place, which of its steps the system refuses and how far it got with them, and
the number that it picks for the temporary name. -/
structure Circumstances where
  cancelledBefore : Bool
  cancelledAfter : Bool
  refusal : WriteStep → Option Error
  /-- How many directories are made before that step is refused. -/
  directoriesMade : Nat
  /-- How many characters are written before that step is refused. -/
  charactersWritten : Nat
  number : Nat

namespace Circumstances

/-- A number with more digits than any path of the disk has characters. -/
def freeNumber (disk : Disk) : Nat :=
  Nat.pow 10 (disk.entries.keys.foldl (fun n path => max n path.length) 0)

/-- The system refuses nothing, and picks a free number. -/
def plain (cancelled : Bool) (disk : Disk) : Circumstances :=
  ⟨cancelled, cancelled, fun _ => none, 0, 0, freeNumber disk⟩

end Circumstances

namespace Directory

/-- A directory with the usual mode, whose files may be replaced. -/
def new (root : String) : Directory := ⟨root, 0o644, true⟩

/-- The mode of new files. -/
def fileMode (d : Directory) : Nat := if d.mode = 0 then 0o644 else Disk.keptMode d.mode

/-- The path of a file as seen from the working directory. -/
def locate (d : Directory) (path : String) : String := Path.join [d.root, path]

/-- The absolute path of a file lies below the absolute path of the directory. -/
def holds (d : Directory) (disk : Disk) (path : String) : Bool :=
  hasStart (disk.absolute d.root ++ "/") (disk.absolute (d.locate path))

/-- The pattern of temporary names, as messages show it. -/
def temporaryPattern : String := ".cytonic-*.tmp"

/-- The temporary name with a number. -/
def temporaryName (number : Nat) : String := ".cytonic-" ++ toString number ++ ".tmp"

/-- The directory of a file, as seen from the working directory. -/
def directoryOf (d : Directory) (path : String) : String := Path.directory (d.locate path)

/-- The absolute path of the temporary file of a write. -/
def temporary (d : Directory) (c : Circumstances) (disk : Disk) (path : String) : String :=
  Path.join [disk.absolute (d.directoryOf path), temporaryName c.number]

/-- The absolute path of a file. -/
def target (d : Directory) (disk : Disk) (path : String) : String :=
  disk.absolute (d.locate path)

/-- The first of some steps that is refused. -/
def refused (d : Directory) (c : Circumstances) (steps : List WriteStep) : Option Error :=
  steps.findSome? fun step => (c.refusal step).map (.within (step.label d.overwrite))

/-- The temporary file of a write, as messages show it. -/
def shownTemporary (d : Directory) (path : String) : String :=
  let directory := d.directoryOf path
  if directory = "/" then "/" ++ temporaryPattern else directory ++ "/" ++ temporaryPattern

/-- The failure to put the temporary file in place. -/
def misplaced (d : Directory) (path reason : String) : Error :=
  .within (WriteStep.putInPlace.label d.overwrite)
    (.disk ⟨if d.overwrite then "rename" else "link", [d.shownTemporary path, d.locate path],
      reason⟩)

/-- Makes the directories that lead to a file. -/
def makeParents (d : Directory) (c : Circumstances) (disk : Disk) (path : String) : DiskRun :=
  let run := disk.makeMissing (Disk.chain (d.directoryOf path))
  match d.refused c [.makeDirectories] with
  | some e => ⟨run.changes.take c.directoriesMade, some e⟩
  | none =>
    ⟨run.changes, run.fault.map (.within (WriteStep.makeDirectories.label d.overwrite))⟩

/-- What keeps the temporary file from being made. A name that is taken is never used. -/
def uncreated (d : Directory) (c : Circumstances) (disk : Disk) (path : String) : Option Error :=
  match d.refused c [.createTemporary], disk.get? (d.temporary c disk path) with
  | some e, _ => some e
  | none, some _ =>
    some (.within (WriteStep.createTemporary.label d.overwrite)
      (.disk ⟨"createtemp", [d.shownTemporary path], "file already exists"⟩))
  | none, none => none

/-- Makes and fills the temporary file. -/
def fill (d : Directory) (c : Circumstances) (temporary : String) (content : String) : DiskRun :=
  let created := .putFile temporary 0o600 ""
  let filled := .putFile temporary 0o600 content
  match d.refused c [.fillTemporary], d.refused c [.closeTemporary, .setMode] with
  | some e, _ =>
    let beginning := String.ofList (content.toList.take c.charactersWritten)
    ⟨[created, .putFile temporary 0o600 beginning], some e⟩
  | none, some e => ⟨[created, filled], some e⟩
  | none, none => ⟨[created, filled, .putFile temporary d.fileMode content], none⟩

/-- What keeps the filled temporary file from being put in place. A directory is never replaced,
and a present file only if that is allowed. -/
def unplaced (d : Directory) (c : Circumstances) (disk : Disk) (path : String) : Option Error :=
  let target := d.target disk path
  match d.refused c [.putInPlace], disk.get? target with
  | some e, _ => some e
  | none, none => (DiskObstacle.ofPath? target).map fun o => d.misplaced path o.text
  | none, some entry =>
    if !d.overwrite then some (.fileExists path)
    else if entry = .directory then some (d.misplaced path "file exists")
    else none

/-- Puts the temporary file in place: by a new name if the target may be replaced, and else by a
second name, which is refused if there is such a file. -/
def place (d : Directory) (temporary target : String) : List DiskChange :=
  if d.overwrite then [.move temporary target] else [.link temporary target, .remove temporary]

/-- Writes a file through a temporary file, which a failure removes. -/
def writeAtomically (d : Directory) (c : Circumstances) (disk : Disk) (file : OutputFile) :
    DiskRun :=
  let parents := d.makeParents c disk file.path
  let disk := disk.applyAll parents.changes
  match parents.fault.or (d.uncreated c disk file.path) with
  | some e => ⟨parents.changes, some e⟩
  | none =>
    let temporary := d.temporary c disk file.path
    let filling := d.fill c temporary file.content
    let disk := disk.applyAll filling.changes
    let cancelled := if c.cancelledAfter then some Error.cancelled else none
    match (filling.fault.or cancelled).or (d.unplaced c disk file.path) with
    | some e => ⟨parents.changes ++ filling.changes ++ [.remove temporary], some e⟩
    | none =>
      ⟨parents.changes ++ filling.changes ++ d.place temporary (d.target disk file.path), none⟩

/-- What writing a file does to the disk. -/
def run (d : Directory) (c : Circumstances) (disk : Disk) (file : OutputFile) : DiskRun :=
  match OutputPath.permit c.cancelledBefore file.path with
  | .error e => ⟨[], some e⟩
  | .ok () =>
    if !d.holds disk file.path then ⟨[], some (.outputPath (.escapesRoot file.path))⟩
    else d.writeAtomically c disk file

/-- Writes a file. -/
def writeUnder (d : Directory) (c : Circumstances) (disk : Disk) (file : OutputFile) :
    Disk × Option Error :=
  let run := d.run c disk file
  (disk.applyAll run.changes, run.fault)

/-- Writes a file when the system refuses nothing. -/
def write (d : Directory) (disk : Disk) (cancelled : Bool) (file : OutputFile) :
    Disk × Option Error :=
  d.writeUnder (.plain cancelled disk) disk file

end Directory

end ApiCompiler
