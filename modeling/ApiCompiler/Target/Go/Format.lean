import ApiCompiler.Target.Go.BuildLines
import ApiCompiler.Target.Go.Columns
import ApiCompiler.Target.Go.Imports.Arrange
import ApiCompiler.Target.Go.Layout.Statements
import ApiCompiler.Target.Go.Token.Scan
import ApiCompiler.Target.Go.Tree.Statements

/-!
# The standard form of source texts

A source file names its package, then come the imports, and then all other declarations.

A text is read, its imports are put in order, and it is printed; what was printed is read and
printed again, because comments may move and imports get new lines the first time. A text that
cannot be read has no standard form.
-/

namespace ApiCompiler.Go

open Parse

namespace Grammar

/-- A declaration at the top level. -/
def topLevel (g : Grammar) : Parse TopLevel := do
  match ← kind with
  | .keyword "func" => return .function (← g.function)
  | .keyword w =>
    if ["const", "type", "var"].contains w then return .group (← g.group w) else malformed
  | _ => malformed

/-- A source file without its comments. -/
def file (g : Grammar) (comments : List Comments) (lines : LineTable) : Parse File := do
  let docs := (← peek).lead
  let start ← keyword "package"
  let package ← name
  let _ ← endStatement
  let imports ← manyWhile (· == .keyword "import") (g.group "import")
  let others ← manyWhile (· != .finish) g.topLevel
  return ⟨docs, start, package, imports.map .group ++ others, comments, lines⟩

end Grammar

namespace File

/-- The tree of a text. Between two tokens there are fewer than three levels of nesting. -/
def ofText? (text : String) : Option File := do
  let cs := text.toList
  let lines := LineTable.ofChars cs
  let (tokens, comments) := attachComments lines (← scan lines cs)
  let count := tokens.length
  let grammar := Grammar.ofDepth (3 * count + 8)
  let (file, _) ← (grammar.file comments lines).run ⟨tokens, count, 0⟩
  return file

/-- The offset behind the last declaration. -/
def stop (f : File) : Nat := (f.declarations.getLast?.map (·.stop)).getD f.package.stop

/-- The text of a file. Every level of its tree holds a statement or an expression, which is
shorter than the one that contains it or stands for it. -/
def print (f : File) (isNormalizing : Bool) : String :=
  let layout := Layout.ofDepth (2 * f.stop + 4)
  let p := ((layout.file f).run (Press.new f.lines isNormalizing (some f.comments))).2.finish
  let inks := BuildLines.gather p.inks.reverse p.goBuild.reverse p.plusBuild.reverse
  Ink.render (Columns.align inks)

end File

/-- The standard form of a source text. -/
def format? (text : String) : Option String := do
  let file := Imports.arrange (← File.ofText? text)
  let spaced ← File.ofText? (Imports.addGaps (Imports.gaps file) (file.print false))
  return (Imports.tidy spaced).print true

end ApiCompiler.Go
