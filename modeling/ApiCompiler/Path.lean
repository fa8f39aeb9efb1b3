import ApiCompiler.Text.Split

/-!
# Paths

Slash-separated paths as texts: their shortest equivalent form, joining, and the parts of a
file name.
-/

namespace ApiCompiler.Path

open Text

/-- One part of a path on top of the parts before it, the last one first. A step up removes a
part, and is kept only if there is nothing to remove and the path is relative. -/
def step (rooted : Bool) (parts : List String) (part : String) : List String :=
  if part == "" || part == "." then parts
  else if part == ".." then
    match parts with
    | [] => if rooted then [] else [".."]
    | p :: rest => if p == ".." then ".." :: p :: rest else rest
  else part :: parts

/-- The path begins at the root. -/
def isRooted (path : String) : Bool := hasStart "/" path

/-- The shortest path that means the same; the empty path means the current directory. -/
def clean (path : String) : String :=
  let rooted := isRooted path
  let parts := ((split '/' path).foldl (step rooted) []).reverse
  let text := joinWith "/" parts
  if rooted then "/" ++ text else if parts.isEmpty then "." else text

/-- Paths one below the other; empty ones do not count. -/
def join (paths : List String) : String :=
  let paths := paths.filter (· != "")
  if paths.isEmpty then "" else clean (joinWith "/" paths)

/-- A path without the slashes at its end. -/
def withoutTrailing (path : String) : String :=
  String.ofList (path.toList.reverse.dropWhile (· == '/')).reverse

/-- The last part of a path. -/
def base (path : String) : String :=
  if path == "" then "."
  else
    let path := withoutTrailing path
    if path == "" then "/"
    else
      match cutLastAt '/' path.toList with
      | some (_, last) => String.ofList last
      | none => path

/-- The directory of a path. -/
def directory (path : String) : String :=
  match cutLastAt '/' path.toList with
  | some (before, _) => clean (String.ofList (before ++ ['/']))
  | none => "."

/-- The extension of a path: from the last point of its last part on, or nothing. -/
def extension (path : String) : String :=
  let last := match cutLastAt '/' path.toList with
    | some (_, last) => last
    | none => path.toList
  match cutLastAt '.' last with
  | some (_, after) => String.ofList ('.' :: after)
  | none => ""

/-- The name of a file without its extension. -/
def stem (path : String) : String :=
  let name := base path
  (dropEnd? (extension name) name).getD name

/-- A path seen from a directory, unless it begins at the root. -/
def absolute (directory path : String) : String :=
  if isRooted path then clean path else join [directory, path]

end ApiCompiler.Path
