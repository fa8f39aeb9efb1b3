import ApiCompiler.Target.Discovery
import ApiCompiler.Target.Go.Generate
import ApiCompiler.Target.Python.Generate
import ApiCompiler.Target.TypeScript.Generate

/-!
# Targets

A target together with its decoded options, ready to plan the files of a project.
-/

namespace ApiCompiler

/-- A target with its options. -/
inductive Target where
  | discovery (settings : Discovery.Settings)
  | go (settings : Go.Settings)
  | python (settings : Python.Settings)
  | typescript (settings : TypeScript.Settings)
deriving Repr

namespace Target

/-- The name of a target. -/
def name : Target → String
  | discovery _ => "discovery"
  | go _ => "go"
  | python _ => "python"
  | typescript _ => "typescript"

/-- The target with a name, and the options that apply to it. -/
def ofName (name : String) (options : Options) : Except Error Target :=
  match name with
  | "discovery" => return .discovery (← Discovery.Settings.decode options)
  | "go" => return .go (← Go.Settings.decode options)
  | "python" => return .python (← Python.Settings.decode options)
  | "typescript" => return .typescript (← TypeScript.Settings.decode options)
  | _ => .error (.config (.unknownTarget name Options.targetNames))

/-- The files of a project for a target. -/
def generate (project : Project) : Target → Plan
  | discovery settings => Discovery.generate project settings
  | go settings => Go.generate project settings
  | python settings => Python.generate project settings
  | typescript settings => TypeScript.generate project settings

end Target

end ApiCompiler
