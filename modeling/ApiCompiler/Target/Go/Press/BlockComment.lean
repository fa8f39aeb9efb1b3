import ApiCompiler.Text.Blank
import ApiCompiler.Text.Split

/-!
# The lines of a block comment

A block comment of several lines is printed with the indentation of its surroundings. Its lines
lose the beginning that they have in common, so that text which was aligned stays aligned.
-/

namespace ApiCompiler.Go.BlockComment

open Text

/-- White space and control characters. -/
def isLow (c : Char) : Bool := c ≤ ' '

/-- The characters of a margin: white space and stars. -/
def isMargin (c : Char) : Bool := isLow c || c == '*'

/-- The longest common beginning of margin characters. -/
def commonMargin : List Char → List Char → List Char
  | a :: as, b :: bs => if a = b && isMargin a then a :: commonMargin as bs else []
  | _, _ => []

/-- A list without an end, if it has that end. -/
def withoutEnd (stop cs : List Char) : List Char :=
  ((afterStart stop.reverse cs.reverse).map List.reverse).getD cs

/-- The margin that the first line suggests: its white space behind the opening mark, with two
blanks for the mark unless a tab stands there. -/
def firstMargin (first : List Char) : List Char :=
  let space := (first.drop 2).takeWhile isLow
  if space.head? == some '\t' then space else ' ' :: ' ' :: space

/-- The margin of a comment without stars on its left. -/
def plainMargin (first margin : List Char) : List Char :=
  if (first.drop 2).all isLow then
    let backwards := margin.reverse
    let blanks := min 3 (backwards.takeWhile (· == ' ')).length
    if blanks != 0 then (backwards.drop blanks).reverse
    else if backwards.head? == some '\t' then (backwards.drop 1).reverse
    else margin
  else withoutEnd (firstMargin first) margin

/-- The margin of the lines between the first and the last; if they are all blank, that of the
last line. -/
def innerMargin (inner : List (List Char)) (last : List Char) : List Char :=
  match inner.filter fun l => !l.all isLow with
  | [] => commonMargin last last
  | first :: rest => rest.foldl commonMargin (commonMargin first first)

/-- Whether the comment has stars on its left, and its margin. -/
def marginOf (first : List Char) (inner : List (List Char)) (last : List Char) :
    Bool × List Char :=
  let margin := innerMargin inner last
  match cutAt '*' margin with
  | some (before, _) => (true, withoutEnd [' '] before)
  | none => (false, plainMargin first margin)

/-- What stands in front of the closing mark. -/
def beforeClosing : List Char → List Char
  | [] => []
  | '*' :: '/' :: _ => []
  | c :: rest => c :: beforeClosing rest

/-- The lines of a comment without their common margin. A last line that only closes the comment
is aligned with the opening. -/
def stripped (first : List Char) (inner : List (List Char)) (last : List Char) :
    List (List Char) :=
  let (hasStars, margin) := marginOf first inner last
  let closes := (beforeClosing last).all isLow
  let closing := if hasStars then [' ', '*', '/'] else ['*', '/']
  let last := if closes then margin ++ closing else last
  let margin := if closes then margin else commonMargin margin last
  let inner := inner.map fun l => if l.all isLow then [] else l.drop margin.length
  first :: inner ++ [last.drop margin.length]

/-- The lines of a comment as they are printed. `isMoved` says that the comment began at the
margin of its file and is going to be indented. -/
def printedLines (text : String) (isMoved : Bool) : List String :=
  match splitAt '\n' text.toList with
  | [] => []
  | first :: rest =>
    let rest := if isMoved then rest.map fun l => ' ' :: ' ' :: ' ' :: l else rest
    match rest.getLast? with
    | none => [String.ofList first]
    | some last => (stripped first rest.dropLast last).map String.ofList

end ApiCompiler.Go.BlockComment
