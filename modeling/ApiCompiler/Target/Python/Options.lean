import ApiCompiler.Project
import ApiCompiler.Target.Options
import ApiCompiler.Target.Python.Name

/-!
# Options of the Python target

Where the Python modules go. All modules of a project are written into one Python module, or
each into a Python module of its own inside a package.
-/

namespace ApiCompiler.Python

open Text

/-- The options of the Python target. -/
structure Settings where
  module : String
  package : String
  installable : Bool
  distName : String
  version : String
  description : String
  runtimeVersion : String
  indent : Int
deriving Repr

namespace Settings

/-- Nothing is set. -/
def unset : Settings := ⟨"", "", false, "", "", "", "", 0⟩

/-- The keys of the options. -/
def keys : List (Options.Key Settings) :=
  [.text "module" fun v s => { s with module := v },
   .text "package" fun v s => { s with package := v },
   .flag "installable" fun v s => { s with installable := v },
   .text "dist_name" fun v s => { s with distName := v },
   .text "version" fun v s => { s with version := v },
   .text "description" fun v s => { s with description := v },
   .text "runtime_version" fun v s => { s with runtimeVersion := v },
   .number "indent" fun v s => { s with indent := v }]

/-- Reads the options of the target. -/
def decode (options : ApiCompiler.Options) : Except Error Settings :=
  Options.decode "python" keys unset (options.forTarget "python")

/-- Fills what is not set. -/
def withDefaults (s : Settings) : Settings :=
  { s with
    indent := if s.indent ≤ 0 then 2 else s.indent
    version := if s.version == "" then "0.0.0" else s.version
    description := if s.description == "" then "Auto-generated API bindings." else s.description
    runtimeVersion := if s.runtimeVersion == "" then "0.1.0" else s.runtimeVersion }

/-- A dotted name whose parts are all identifiers. -/
def isDottedName (name : String) : Bool := (split '.' name).all isIdentifier

/-- Exactly one of module and package is set, to a proper name. -/
def validate (s : Settings) : Except Error Unit := do
  if s.module != "" && s.package != "" then throw (.config .mixedLayouts)
  if s.module == "" && s.package == "" then throw (.config .noLayout)
  if !s.installable && (s.distName != "" || s.version != "" || s.description != "") then
    throw (.config .notInstallable)
  [s.module, s.package].forM fun name =>
    if name == "" || isDottedName name then .ok () else .error (.config (.badModuleName name))

/-- The name under which the output is imported. -/
def importName (s : Settings) : String := if s.module == "" then s.package else s.module

/-- The directory of the sources. -/
def sourceDirectory (s : Settings) : String := if s.installable then "src/" else ""

/-- The dotted name of the Python module that defines the types of a module. -/
def sourceOf (s : Settings) (module : String) : String :=
  if s.module == "" then s.package ++ "." ++ module else s.module

end Settings

/-- A Python file to be generated: its path, its dotted name, and the modules it holds. -/
structure File where
  path : String
  name : String
  modules : List String
deriving DecidableEq, Repr

/-- The path of a dotted name. -/
def modulePath (dotted : String) : String :=
  String.ofList (replaceChar '.' ['/'] dotted.toList)

/-- The Python files of a project. -/
def layout (project : Project) (s : Settings) : List File :=
  let file := fun (name : String) (modules : List String) =>
    (⟨s.sourceDirectory ++ modulePath name ++ ".py", name, modules⟩ : File)
  if s.module != "" then [file s.module project.moduleNames]
  else project.moduleNames.map fun name => file (s.package ++ "." ++ name) [name]

end ApiCompiler.Python
