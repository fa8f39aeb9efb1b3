import ApiCompiler.Target.Go.Format
import ApiCompiler.Target.Go.Types
import ApiCompiler.Text.Wrap
import ApiCompiler.Writer

/-!
# Go source files

Files of Go declarations as data, and their draft, which is written straight ahead. Names are
written as they are, so a draft need not be a source text; the text of a file is the standard
form of its draft, if it has one.
-/

namespace ApiCompiler.Go

open Text

/-- A field of a struct. -/
structure StructField where
  docs : List String
  name : String
  type : String
  tag : String
deriving Repr

/-- A constant of a group. -/
structure Constant where
  docs : List String
  name : String
  type : String
  value : String
deriving Repr

/-- A method of an interface. -/
structure Method where
  docs : List String
  /-- An empty line stands in front of the method. -/
  isApart : Bool
  name : String
  params : List (String × String)
  result : Option String
deriving Repr

/-- A line of a function body, with its depth. -/
structure BodyLine where
  depth : Nat
  text : String
deriving Repr

/-- A declaration at the top level. -/
inductive Declaration where
  | named (docs : List String) (name underlying : String)
  | constants (group : List Constant)
  | struct (docs : List String) (name : String) (embedded : Option String)
      (remark : Option String) (fields : List StructField)
  | interface (docs : List String) (name : String) (methods : List Method)
  | function (docs : List String) (head : String) (body : List BodyLine)
deriving Repr

/-- A source file. -/
structure SourceFile where
  package : String
  docs : List String
  imports : List String
  declarations : List Declaration
deriving Repr

/-- Comment lines of a documentation text at a level of indentation. -/
def docLines (level : Nat) (docs : String) : List String :=
  if isBlankText docs then [] else wrap docs (77 - level)

/-- Writes comment lines. -/
def writeComment (lines : List String) (w : Writer) : Writer :=
  lines.foldl (fun w l => w.line (if l == "" then "//" else "// " ++ l)) w

/-- The line of a field. -/
def StructField.line (f : StructField) : String := f.name ++ " " ++ f.type ++ " " ++ f.tag

/-- The line of a constant. -/
def Constant.line (c : Constant) : String := c.name ++ " " ++ c.type ++ " = " ++ c.value

/-- The signature of a method. -/
def Method.signature (m : Method) : String :=
  let params := m.params.map fun (name, type) => name ++ " " ++ type
  let result := m.result.elim "error" fun type => "(" ++ type ++ ", error)"
  m.name ++ "(" ++ joinWith ", " params ++ ") " ++ result

namespace Declaration

/-- Writes a declaration. -/
def write (w : Writer) : Declaration → Writer
  | named docs name underlying =>
    (writeComment docs w).line ("type " ++ name ++ " " ++ underlying)
  | constants group =>
    w.block "const (" (fun w => group.foldl (fun w c => (writeComment c.docs w).line c.line) w) ")"
  | struct docs name embedded remark fields =>
    (writeComment docs w).block ("type " ++ name ++ " struct \x7b") (fun w =>
      let w := embedded.elim w fun type =>
        let w := w.line type
        if fields.isEmpty then w else w.blank 1
      let w := remark.elim w fun text => writeComment [text] w
      fields.foldl (fun w f => (writeComment f.docs w).line f.line) w) "\x7d"
  | interface docs name methods =>
    (writeComment docs w).block ("type " ++ name ++ " interface \x7b") (fun w =>
      methods.foldl (fun w m =>
        let w := if m.isApart then w.blank 1 else w
        (writeComment m.docs w).line m.signature) w) "\x7d"
  | function docs head body =>
    (writeComment docs w).block ("func " ++ head ++ " \x7b") (fun w =>
      body.foldl (fun w l =>
        let deeper := { w with level := w.level + l.depth }
        { deeper.line l.text with level := w.level }) w) "\x7d"

end Declaration

/-- Writes the imports of a file. -/
def writeImports (paths : List String) (w : Writer) : Writer :=
  if paths.isEmpty then w
  else (w.blank 1).block "import (" (fun w => paths.foldl (fun w p => w.line (quote p)) w) ")"

namespace SourceFile

/-- The draft of a file. -/
def draft (f : SourceFile) : String :=
  let w := Writer.new "\t"
  let w := (w.line "// Code generated by cytonic. DO NOT EDIT.").blank 1
  let w := (writeComment f.docs w).line ("package " ++ f.package)
  let w := writeImports f.imports w
  (f.declarations.foldl (fun w d => d.write (w.blank 1)) w).text

/-- A file without a standard form. The failure shows the draft. -/
def refuse {α : Type} (f : SourceFile) : Except Error α :=
  labelled ("formatting generated code:\n" ++ f.draft) (.error .unformattable)

/-- A file whose comments show some documentation. Bytes that are no text have no place in a
comment. -/
def checkComments (documentation : List RawText) (f : SourceFile) : Except Error SourceFile :=
  if documentation.all RawText.isText then .ok f else f.refuse

theorem checkComments_eq_ok_iff {documentation : List RawText} {f g : SourceFile} :
    checkComments documentation f = .ok g ↔ (∀ d ∈ documentation, d.isText = true) ∧ f = g := by
  rw [checkComments, ← List.all_eq_true]
  split
  · rename_i texts
    rw [and_iff_right texts, Except.ok.injEq]
  · rename_i stray
    exact iff_of_false nofun fun allowed => stray allowed.1

/-- The text of a file. -/
def format (f : SourceFile) : Except Error String :=
  match format? f.draft with
  | some text => .ok text
  | none => f.refuse

end SourceFile

end ApiCompiler.Go
