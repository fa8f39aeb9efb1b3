import ApiCompiler.Target.Go.Ink
import ApiCompiler.Target.Go.Tree
import Std.Data.HashMap

/-!
# A press

Printing keeps back white space until the next token is known, because comments may have to be
put in between. The press holds what was printed, the white space that was kept back, the place
in the source of what comes next, and the comments that were not printed yet.
-/

namespace ApiCompiler.Go

/-- White space that is kept back. -/
inductive Space where
  | nothing
  | blank
  | softTab
  | newline
  | formfeed
  | indent
  | unindent
deriving DecidableEq, Repr

/-- A group of comments that waits to be printed. -/
structure Waiting where
  comments : Comments
  /-- The group does not fit on one line. -/
  hasBreak : Bool

/-- What was measured: an expression or a statement from one offset to another. -/
structure Measured where
  start : Nat
  stop : Nat
  isStatement : Bool
deriving DecidableEq, Hashable

/-- The sizes that were found; what does not fit on one line has none. -/
abbrev Sizes := Std.HashMap Measured (Option Nat)

/-- The state of printing. -/
structure Press where
  lines : LineTable
  /-- Numbers are written in their usual form. -/
  isNormalizing : Bool
  /-- Comments come from the nodes of the tree. -/
  takesNodeComments : Bool
  /-- What was printed, the latest first, and its length. -/
  inks : List Ink
  count : Nat
  indent : Nat
  /-- The nesting of composite values. -/
  nesting : Nat
  /-- No blank is put behind a comment. -/
  forbidsBlank : Bool
  /-- No line break is put behind a comment. -/
  forbidsBreak : Bool
  /-- The rest of the line takes no part in columns. -/
  endsColumns : Bool
  /-- A line break here would end the statement. -/
  endsStatement : Bool
  /-- The last token, if no white space follows it. -/
  lastToken : Option TokenKind
  /-- The opening parenthesis or bracket that was the last token but one. -/
  lastOpening : Option TokenKind
  spaces : List Space
  /-- Where comments with build constraints begin, the latest first. -/
  goBuild : List Nat
  plusBuild : List Nat
  place : Place
  outLine : Nat
  outColumn : Nat
  last : Place
  /-- Lines that were noted for later, and the one that the next token notes. -/
  noted : Array Nat
  awaited : Option Nat
  waiting : Option Waiting
  comments : List Comments
  /-- The sizes that were found so far. -/
  sizes : Sizes

/-- A step of printing. -/
abbrev Draw (α : Type) := StateM Press α

namespace Comments

/-- A group that does not fit on one line. -/
def hasBreak (lines : LineTable) (g : Comments) : Bool :=
  let line := lines.line g.start
  g.any fun c => lines.line c.start != line || c.isLine || c.text.toList.contains '\n'

end Comments

namespace Press

/-- The comments that wait next. -/
def advance (p : Press) : Press :=
  match p.comments with
  | [] => { p with waiting := none }
  | g :: rest => { p with waiting := some ⟨g, g.hasBreak p.lines⟩, comments := rest }

/-- A press at the beginning of a text. -/
def new (lines : LineTable) (isNormalizing : Bool) (comments : Option (List Comments)) : Press :=
  let p : Press :=
    { lines, isNormalizing, takesNodeComments := comments.isNone, inks := [], count := 0
      indent := 0, nesting := 0, forbidsBlank := false, forbidsBreak := false, endsColumns := false
      endsStatement := false, lastToken := none, lastOpening := none, spaces := []
      goBuild := [], plusBuild := [], place := .first, outLine := 1, outColumn := 1
      last := .unknown, noted := #[], awaited := none, waiting := none
      comments := comments.getD [], sizes := ∅ }
  p.advance

/-- The comments that wait come before a place, and printing them ends no statement. -/
def hasCommentBefore (p : Press) (next : Place) : Bool :=
  p.waiting.any fun w =>
    w.comments.start < next.offset && (!p.endsStatement || !w.hasBreak)

/-- Adds a piece. -/
def put (p : Press) (i : Ink) : Press := { p with inks := i :: p.inks, count := p.count + 1 }

/-- Adds a piece several times. -/
def putMany (p : Press) (i : Ink) : Nat → Press
  | 0 => p
  | n + 1 => (p.put i).putMany i n

/-- Writes the indentation. -/
def writeIndent (p : Press) : Press :=
  let n := p.indent
  { p.putMany .tab n with
    place := { p.place with offset := p.place.offset + n, column := p.place.column + n }
    outColumn := p.outColumn + n }

/-- Writes white space several times. Where columns end, tabs are blanks, and the end of the line
ends the columns. -/
def writeSpace (p : Press) (i : Ink) (n : Nat) : Press :=
  let i := if p.endsColumns then
      match i with
      | .tab | .softTab => .blank
      | .newline => .formfeed
      | i => i
    else i
  let p := p.putMany i n
  if i.isBreak then
    { p with
      endsColumns := false
      place := ⟨p.place.offset + n, p.place.line + n, 1⟩
      outLine := p.outLine + n
      outColumn := 1 }
  else
    { p with
      place := { p.place with offset := p.place.offset + n, column := p.place.column + n }
      outColumn := p.outColumn + n }

/-- A line break in a text. -/
def isLineEnd (c : Char) : Bool := c == '\n' || c == '\x0c'

/-- Writes a token, a literal or a comment that stands at a place. Behind a line break in it the
rest of the line takes no part in columns. -/
def writeText (p : Press) (place : Place) (s : String) (isVerbatim : Bool) : Press :=
  let p := if p.outColumn == 1 then p.writeIndent else p
  let start := if place.isKnown then place else p.place
  let p := p.put (if isVerbatim then .verbatim s else .text s)
  let size := s.utf8ByteSize
  let breaks := s.toList.countP isLineEnd
  let p := if breaks == 0 then
      { p with
        place := ⟨start.offset + size, start.line, start.column + size⟩
        outColumn := p.outColumn + size }
    else
      let column := Text.byteCount (s.toList.reverse.takeWhile fun c => !isLineEnd c) + 1
      { p with
        endsColumns := true
        place := ⟨start.offset + size, start.line + breaks, column⟩
        outLine := p.outLine + breaks
        outColumn := column }
  { p with last := p.place }

/-- Writes the first `n` of the spaces that were kept back, and drops them. A line break in front
of an `unindent` comes behind it, which puts labels in their place. -/
def writeSpacesFrom (p : Press) : Nat → List Space → Press
  | 0, rest => { p with spaces := rest }
  | _ + 1, [] => { p with spaces := [] }
  | n + 1, s :: rest =>
    match s with
    | .nothing => p.writeSpacesFrom n rest
    | .indent => { p with indent := p.indent + 1 }.writeSpacesFrom n rest
    | .unindent => { p with indent := p.indent - 1 }.writeSpacesFrom n rest
    | .blank => (p.writeSpace .blank 1).writeSpacesFrom n rest
    | .softTab => (p.writeSpace .softTab 1).writeSpacesFrom n rest
    | .newline | .formfeed =>
      match n, rest with
      | m + 1, .unindent :: rest =>
        { p with indent := p.indent - 1 }.writeSpacesFrom (m + 1) (.formfeed :: rest)
      | n, rest =>
        (p.writeSpace (if s = .newline then .newline else .formfeed) 1).writeSpacesFrom n rest

/-- Writes the first `n` of the spaces that were kept back. -/
def writeSpaces (p : Press) (n : Nat) : Press := p.writeSpacesFrom n p.spaces

end Press

end ApiCompiler.Go
