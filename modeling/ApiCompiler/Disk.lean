import ApiCompiler.Error
import ApiCompiler.OrderedMap
import ApiCompiler.Path

/-!
# The disk

Files and directories by their absolute path, and the working directory against which relative
paths are read. Reading follows a path part by part, so that every part but the last has to be a
directory.
-/

namespace ApiCompiler

open Text

/-- What stands at a path. -/
inductive DiskEntry where
  | file (mode : Nat) (text : String)
  | directory
deriving DecidableEq, Repr

/-- The files and directories that there are. The root of all paths is always a directory. -/
structure Disk where
  home : String
  entries : OrderedMap DiskEntry
deriving Repr

/-- Why a path leads to nothing: nothing is there, a file stands where a directory has to be, or
the path cannot be a path at all. -/
inductive DiskObstacle where
  | missing
  | notDirectory
  | invalid
  | nameTooLong
deriving DecidableEq, Repr

namespace DiskObstacle

/-- The reason as messages give it. -/
def text : DiskObstacle → String
  | missing => "no such file or directory"
  | notDirectory => "not a directory"
  | invalid => "invalid argument"
  | nameTooLong => "file name too long"

/-- The failure of an operation on a path. -/
def failure (o : DiskObstacle) (operation path : String) : Error :=
  match o with
  | missing => .missingFile ⟨operation, [path], o.text⟩
  | _ => .disk ⟨operation, [path], o.text⟩

/-- The greatest size of a name in bytes. -/
def longestName : Nat := 255

/-- A part of a path is too long for a name. -/
def isTooLong (part : String) : Bool := byteCount part.toList > longestName

/-- What keeps a text from being a path: a null character, or a name that is too long. -/
def ofPath? (path : String) : Option DiskObstacle :=
  if path.toList.contains '\x00' then some invalid
  else if (split '/' path).any isTooLong then some nameTooLong
  else none

end DiskObstacle

namespace Disk

/-- The absolute form of a path. -/
def absolute (d : Disk) (path : String) : String := Path.absolute d.home path

/-- What stands at an absolute path. -/
def get? (d : Disk) (path : String) : Option DiskEntry :=
  if path = "/" then some .directory else d.entries.get? path

/-- Puts an entry at an absolute path. -/
def put (d : Disk) (path : String) (entry : DiskEntry) : Disk :=
  { d with entries := d.entries.insert path entry }

/-- Removes what stands at an absolute path. -/
def remove (d : Disk) (path : String) : Disk :=
  { d with entries := d.entries.erase path }

/-- The paths of the directories that lead to a clean path, from the outside in, and the path
itself. -/
def chain (path : String) : List String :=
  let rec extend (before : List String) : List String → List String
    | [] => []
    | part :: rest => joinWith "/" (before ++ [part]) :: extend (before ++ [part]) rest
  if Path.isRooted path then (extend [""] ((split '/' path).drop 1))
  else extend [] (split '/' path)

end Disk

/-- A change that one call of the system makes on a disk, by absolute paths. A link is a second
name of a file. -/
inductive DiskChange where
  | makeDirectory (path : String)
  | putFile (path : String) (mode : Nat) (text : String)
  | move (source target : String)
  | link (source target : String)
  | remove (path : String)
deriving DecidableEq, Repr

/-- The disk behind a change. A directory is only made where nothing stands. -/
def DiskChange.apply (d : Disk) : DiskChange → Disk
  | makeDirectory path => if d.get? path = none then d.put path .directory else d
  | putFile path mode text => d.put path (.file mode text)
  | move source target =>
    match d.get? source with
    | some entry => (d.remove source).put target entry
    | none => d
  | link source target =>
    match d.get? source with
    | some entry => d.put target entry
    | none => d
  | remove path => d.remove path

/-- What a program did to a disk: its changes in order, and the failure that ended it. -/
structure DiskRun where
  changes : List DiskChange
  fault : Option Error
deriving Repr

namespace Disk

/-- The disk behind changes. -/
def applyAll (d : Disk) (changes : List DiskChange) : Disk := changes.foldl DiskChange.apply d

/-- Makes the directories of a list that are missing. A file in the way is the failure of making
the directory that it would have to be; the directories before it are made. -/
def makeMissing (d : Disk) : List String → DiskRun
  | [] => ⟨[], none⟩
  | path :: rest =>
    let place := d.absolute path
    match d.get? place, DiskObstacle.ofPath? path with
    | some .directory, _ => d.makeMissing rest
    | some (.file _ _), _ => ⟨[], some (DiskObstacle.notDirectory.failure "mkdir" path)⟩
    | none, some obstacle => ⟨[], some (obstacle.failure "mkdir" path)⟩
    | none, none =>
      let others := (d.put place .directory).makeMissing rest
      ⟨.makeDirectory place :: others.changes, others.fault⟩

/-- The disk with a directory and all that lead to it; present ones stay. -/
def makeDirectories (d : Disk) (path : String) : Except Error Disk :=
  let run := d.makeMissing (chain path)
  match run.fault with
  | some e => .error e
  | none => .ok (d.applyAll run.changes)

/-- The disk with nothing but a working directory. -/
def new (home : String) : Disk :=
  (chain home).foldl (fun d path => d.put path .directory) ⟨home, .empty⟩

/-- The absolute path of parts, the last one first. -/
def ofParts (parts : List String) : String := "/" ++ joinWith "/" parts.reverse

/-- Follows the parts of a path from a place, given by its parts with the last one first. -/
def follow (d : Disk) : List String → List String → Except DiskObstacle DiskEntry
  | here, [] =>
    match d.get? (ofParts here) with
    | some entry => .ok entry
    | none => .error .missing
  | here, part :: rest =>
    match d.get? (ofParts here) with
    | some .directory =>
      if DiskObstacle.isTooLong part then .error .nameTooLong
      else d.follow (Path.step true here part) rest
    | some (.file _ _) => .error .notDirectory
    | none => .error .missing

/-- What stands at a path as written. -/
def find (d : Disk) (path : String) : Except DiskObstacle DiskEntry :=
  if path = "" then .error .missing
  else if path.toList.contains '\x00' then .error .invalid
  else if Path.isRooted path then d.follow [] (split '/' path)
  else d.follow ((split '/' d.home).foldl (Path.step true) []) (split '/' path)

/-- The text of a file. -/
def read (d : Disk) (path : String) : Except Error String :=
  match d.find path with
  | .ok (.file _ text) => .ok text
  | .ok .directory => .error (.disk ⟨"read", [path], "is a directory"⟩)
  | .error obstacle => .error (obstacle.failure "open" path)

/-- The files below a directory by their path from the working directory, with mode and text. -/
def filesBelow (d : Disk) (directory : String) : List (String × Nat × String) :=
  d.entries.toList.filterMap fun (path, entry) =>
    match entry, dropStart? (d.absolute directory ++ "/") path with
    | .file mode text, some _ =>
      some ((dropStart? (d.home ++ "/") path).getD path, mode, text)
    | _, _ => none

/-- The bits of a mode besides the permissions that a file can have, and their letters: set user,
set group and sticky. -/
def specialBits : List (Nat × Char) := [(23, 'u'), (22, 'g'), (20, 't')]

/-- What a file keeps of a mode: the permissions and the special bits. -/
def keptMode (mode : Nat) : Nat :=
  specialBits.foldl (fun kept (bit, _) => if mode.testBit bit then kept + (1 <<< bit) else kept)
    (mode % 0o1000)

/-- The mode of a file as listings show it. -/
def modeText (mode : Nat) : String :=
  let special := (specialBits.filter fun (bit, _) => mode.testBit bit).map (·.2)
  let letters := ['r', 'w', 'x', 'r', 'w', 'x', 'r', 'w', 'x']
  String.ofList ((if special.isEmpty then ['-'] else special) ++
    (letters.zip (List.range 9)).map fun (letter, i) =>
      if mode.testBit (8 - i) then letter else '-')

end Disk

end ApiCompiler
