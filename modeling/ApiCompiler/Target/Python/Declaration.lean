import ApiCompiler.Target.Python.Literal
import ApiCompiler.Text.Wrap
import ApiCompiler.Writer

/-!
# Python declarations

Classes, methods, fields and unions as data, and how they are written.
-/

namespace ApiCompiler.Python

open Text

/-- A line of a class body: a name with a type, a value, or both. -/
structure Field where
  name : String
  hint : String
  value : String
  docs : String
deriving Repr

/-- A method. -/
structure Method where
  name : String
  args : List String
  returns : String
  docs : String
  decorators : List String
  body : List String
  isAsync : Bool
deriving Repr

/-- A class. -/
structure Class where
  name : String
  docs : String
  decorators : List String
  bases : List String
  fields : List Field
  methods : List Method
deriving Repr

/-- A union of types with a name for each variant. -/
structure Union where
  name : String
  docs : String
  variants : List (String × String)
deriving Repr

/-- A declaration at the top level of a file. -/
inductive Declaration where
  | ofClass (c : Class)
  | ofUnion (u : Union)
deriving Repr

/-- The width to which docstrings are filled. -/
def maxWidth : Int := 119

/-- Three quotes in a row, each behind a backslash; other quotes stay. -/
def escapeTripleQuotes : List Char → List Char
  | '"' :: '"' :: '"' :: rest => ['\\', '"', '\\', '"', '\\', '"'] ++ escapeTripleQuotes rest
  | c :: rest => c :: escapeTripleQuotes rest
  | [] => []

/-- Writes a docstring: on one line if it fits, else between lines of three quotes. Blank
documentation is not written. -/
def writeDocstring (w : Writer) (docs : String) : Writer :=
  if isBlankText docs then w
  else
    let width := maxWidth - w.indentWidth
    let lines := wrap docs width
    let block := fun w : Writer =>
      (lines.foldl (fun w l => w.line (String.ofList (escapeTripleQuotes l.toList)))
        (w.line "\"\"\"")).line "\"\"\""
    match lines with
    | [l] =>
      if (byteCount l.toList : Int) < width - 2 then
        w.line ("\" " ++ String.ofList (replaceChar '"' ['\\', '"'] l.toList) ++ " \"")
      else block w
    | _ => block w

/-- Writes a field. -/
def Field.write (w : Writer) (f : Field) : Writer :=
  let hint := if f.hint == "" then "" else ": " ++ f.hint
  let value := if f.value == "" then "" else " = " ++ f.value
  writeDocstring (w.line (f.name ++ hint ++ value)) f.docs

/-- Writes a method. -/
def Method.write (w : Writer) (m : Method) : Writer :=
  let w := m.decorators.foldl Writer.line w
  let keyword := if m.isAsync then "async def " else "def "
  let returns := if m.returns == "" then "" else " -> " ++ m.returns
  let w := w.line (keyword ++ m.name ++ "(" ++ joinWith ", " m.args ++ ")" ++ returns ++ ":")
  w.indented fun w => m.body.foldl Writer.line (writeDocstring w m.docs)

/-- Writes a class. An empty body is a single `pass`. -/
def Class.write (w : Writer) (c : Class) : Writer :=
  let w := c.decorators.foldl Writer.line w
  let bases := if c.bases.isEmpty then "" else "(" ++ joinWith ", " c.bases ++ ")"
  let w := w.line ("class " ++ c.name ++ bases ++ ":")
  w.indented fun w =>
    let w := writeDocstring w c.docs
    let w := if !c.fields.isEmpty && !isBlankText c.docs then w.blank 1 else w
    let w := c.fields.foldl Field.write w
    let w := c.methods.foldl (fun w m => m.write (w.blank 1)) w
    if isBlankText c.docs && c.fields.isEmpty && c.methods.isEmpty then w.line "pass" else w

/-- Writes a union. -/
def Union.write (w : Writer) (u : Union) : Writer :=
  let w := w.line (u.name ++ " = typing.Annotated[")
  let w := w.indented fun w =>
    let w := w.line (joinWith " | " (u.variants.map (·.2)) ++ ",")
    let w := w.line "databind.core.annotations.union(\x7b"
    let w := w.indented fun w =>
      u.variants.foldl (fun w (name, hint) => w.line (quote name ++ ": " ++ hint ++ ",")) w
    w.line "\x7d)"
  writeDocstring (w.line "]") u.docs

/-- Writes a declaration behind two empty lines. -/
def Declaration.write (w : Writer) : Declaration → Writer
  | .ofClass c => c.write (w.blank 2)
  | .ofUnion u => u.write (w.blank 2)

end ApiCompiler.Python
