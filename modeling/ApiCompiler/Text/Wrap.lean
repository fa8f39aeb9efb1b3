import ApiCompiler.Text.Blank
import ApiCompiler.Text.Split

/-!
# Filling paragraphs

Breaking a text into lines of a given width in bytes. Lines are broken at white space only, so
a word that is too long has a line of its own. Blank lines between paragraphs stay.
-/

namespace ApiCompiler.Text

/-- Puts words into lines. `line` is the line under construction, empty at its beginning. -/
def fillLines (width : Int) (line : List Char) : List (List Char) → List (List Char)
  | [] => if line.isEmpty then [] else [line]
  | word :: words =>
    if line.isEmpty then fillLines width word words
    else if (byteCount line + 1 + byteCount word : Nat) > width then
      line :: fillLines width word words
    else fillLines width (line ++ ' ' :: word) words

/-- The lines of one paragraph. -/
def fillParagraph (width : Int) (paragraph : List Char) : List (List Char) :=
  fillLines width [] (runs isBlank paragraph)

/-- The lines of several paragraphs, with an empty line between them. -/
def fillParagraphs (width : Int) : List (List Char) → List (List Char)
  | [] => []
  | [p] => fillParagraph width p
  | p :: rest => fillParagraph width p ++ [] :: fillParagraphs width rest

/-- The lines of a text. -/
def wrap (s : String) (width : Int) : List String :=
  (fillParagraphs width (paragraphs (trimBy isBlank s.toList))).map String.ofList

end ApiCompiler.Text
