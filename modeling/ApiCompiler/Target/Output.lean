import ApiCompiler.Error

/-!
# Planned output

What a target produces: files in the order of writing, up to a fault if there is one. Files
before the fault are still written.
-/

namespace ApiCompiler

open Text

/-- A generated file. -/
structure OutputFile where
  path : String
  content : String
deriving DecidableEq, Repr

/-- The size of a file in bytes. -/
def OutputFile.size (f : OutputFile) : Nat := byteCount f.content.toList

/-- The files of a target, and the fault that ended their making. -/
structure Plan where
  files : List OutputFile
  fault : Option Error
deriving Repr

namespace Plan

/-- No files. -/
def empty : Plan := ⟨[], none⟩

/-- A plan that failed at once. -/
def failed (e : Error) : Plan := ⟨[], some e⟩

/-- A plan of one file. -/
def single (path content : String) : Plan := ⟨[⟨path, content⟩], none⟩

/-- One plan after another, unless the first one failed. -/
def andThen (p q : Plan) : Plan :=
  match p.fault with
  | some _ => p
  | none => ⟨p.files ++ q.files, q.fault⟩

/-- A plan of one file for each element, up to the first that fails. -/
def ofList {α : Type} (make : α → Except Error OutputFile) : List α → Plan
  | [] => empty
  | a :: rest =>
    match make a with
    | .error e => failed e
    | .ok file =>
      let more := ofList make rest
      ⟨file :: more.files, more.fault⟩

end Plan

end ApiCompiler
