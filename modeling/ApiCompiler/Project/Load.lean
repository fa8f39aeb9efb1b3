import ApiCompiler.Disk
import ApiCompiler.Module.Read
import ApiCompiler.Project

/-!
# Projects from files

Every definition file is a module, named after the file. Files hold YAML; JSON is read as YAML.
-/

namespace ApiCompiler

open Text

namespace Module

/-- The extensions of definition files. -/
def extensions : List String := [".yaml", ".yml", ".json"]

/-- Reads and checks a definition file. -/
def load (disk : Disk) (path : String) : Except Error Module := do
  let extension := lowerCase (Path.extension path)
  if !extensions.contains extension then
    throw (.config (.unsupportedExtension path extension))
  let text ← labelled "reading module" (disk.read path)
  labelled path (Module.decode text)

/-- The name of the module that a definition file holds. -/
def nameOf (path : String) : String := Path.stem path

end Module

namespace Project

/-- The project of some definition files. -/
def load (disk : Disk) (paths : List String) : Except Error Project :=
  paths.foldlM (fun p path => do
    let m ← Module.load disk path
    labelled path (p.add (Module.nameOf path) m)) .empty

/-- The project of at least one definition file. -/
def loadSome (disk : Disk) (paths : List String) : Except Error Project :=
  if paths.isEmpty then .error (.config .noFiles) else load disk paths

end Project

end ApiCompiler
