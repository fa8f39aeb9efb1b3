import ApiCompiler.Error
import ApiCompiler.Path

/-!
# Paths of output files

A file may be written to a relative path in its shortest form that nowhere steps up. What looks
like a drive of another system counts as absolute.
-/

namespace ApiCompiler.OutputPath

open Text

/-- The path begins with a letter and a colon. -/
def hasDrive (path : String) : Bool :=
  match path.toList with
  | letter :: ':' :: _ => letter.isAlpha
  | _ => false

/-- The path is fit for an output file. -/
def validate (path : String) : Except Error Unit :=
  if path == "" then .error (.outputPath .empty)
  else if Path.isRooted path || hasDrive path then .error (.outputPath (.absolute path))
  else if (split '/' path).contains ".." then .error (.outputPath (.traversal path))
  else if Path.clean path != path then
    .error (.outputPath (.unclean (Path.clean path) path))
  else .ok ()

/-- A file may be written: its path is fit, and the run was not cancelled. -/
def permit (cancelled : Bool) (path : String) : Except Error Unit := do
  validate path
  if cancelled then throw .cancelled

end ApiCompiler.OutputPath
