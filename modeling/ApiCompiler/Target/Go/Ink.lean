import ApiCompiler.Text.Split

/-!
# Ink

A printed text before its columns are aligned. Tabs divide cells; a vertical tab divides cells
whose column disappears if it is empty. A form feed ends a line like a line break, and ends all
columns too. Verbatim texts are taken as they are, whatever they hold.
-/

namespace ApiCompiler.Go

open Text

/-- A piece of a printed text. -/
inductive Ink where
  | blank
  | tab
  | softTab
  | newline
  | formfeed
  | text (content : String)
  | verbatim (content : String)
deriving DecidableEq, Repr

namespace Ink

/-- The end of a line. -/
def isBreak : Ink → Bool
  | newline => true
  | formfeed => true
  | _ => false

/-- White space inside a line. -/
def isSpace : Ink → Bool
  | blank => true
  | tab => true
  | softTab => true
  | _ => false

/-- The characters of a piece. -/
def content : Ink → String
  | blank => " "
  | tab => "\t"
  | softTab => "\t"
  | newline => "\n"
  | formfeed => "\n"
  | text s => s
  | verbatim s => s

/-- The pieces without the white space at the ends of lines. White space is kept back until
something follows it on its line. -/
def trimmedFrom (kept : List Ink) : List Ink → List Ink
  | [] => []
  | i :: rest =>
    if i.isSpace then trimmedFrom (i :: kept) rest
    else if i.isBreak then i :: trimmedFrom [] rest
    else kept.reverse ++ i :: trimmedFrom [] rest

/-- The text of pieces, without white space at the ends of lines. -/
def render (inks : List Ink) : String := String.join ((trimmedFrom [] inks).map content)

/-- The number of bytes of a text on one line, without white space at its end. -/
def lineSize? (inks : List Ink) : Option Nat :=
  let text := render inks
  if text.toList.contains '\n' || text.toList.contains '\x0c' then none else some text.utf8ByteSize

end Ink

end ApiCompiler.Go
