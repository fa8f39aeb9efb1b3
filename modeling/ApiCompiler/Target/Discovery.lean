import ApiCompiler.Describe.Document
import ApiCompiler.Target.Options
import ApiCompiler.Target.Output

/-!
# The discovery target

One JSON document that describes every module of a project, for tools that read services at
run time.
-/

namespace ApiCompiler.Discovery

/-- The options of the discovery target. -/
structure Settings where
  filename : String
deriving Repr

namespace Settings

/-- The keys of the options. -/
def keys : List (Options.Key Settings) :=
  [.text "filename" fun v s => { s with filename := v }]

/-- Reads the options of the target. -/
def decode (options : ApiCompiler.Options) : Except Error Settings :=
  Options.decode "discovery" keys ⟨""⟩ (options.forTarget "discovery")

/-- The name of the document. -/
def path (s : Settings) : String := if s.filename == "" then "cytonic.json" else s.filename

end Settings

/-- The document of a project. -/
def document (project : Project) : Except Error Json := do
  let modules ← ModuleDescription.ofProject project
  let list ← labelled "encoding discovery document" (ModuleDescription.listToJson modules)
  return .obj [("modules", list)]

/-- The file of the discovery target. -/
def generate (project : Project) (settings : Settings) : Plan :=
  match document project with
  | .error e => .failed e
  | .ok doc => .single settings.path (doc.indented ++ "\n")

end ApiCompiler.Discovery
