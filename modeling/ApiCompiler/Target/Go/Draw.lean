import ApiCompiler.Target.Go.Press.Comments

/-!
# Steps of printing

White space is kept back, tokens are written at the place that was set before. A token is
followed by the line breaks that the source has there, unless one would end a statement.
-/

namespace ApiCompiler.Go

namespace Press

/-- Notes whether the last token opens parentheses or brackets. -/
def noteOpening (p : Press) : Press :=
  match p.lastToken with
  | none => p
  | some k => { p with lastOpening := if k == .mark "(" || k == .mark "[" then some k else none }

/-- The number of spaces that are kept back at most. -/
def spaceLimit : Nat := 16

/-- Keeps white space back. -/
def hold (p : Press) (s : Space) : Press :=
  let p := p.noteOpening
  if s = .nothing then p
  else
    let p := if p.spaces.length < spaceLimit then p else p.writeSpaces p.spaces.length
    { p with
      spaces := p.spaces ++ [s]
      endsStatement := p.endsStatement && s != .newline && s != .formfeed
      lastToken := none }

/-- A token and the beginning of the next one would be read as another token. -/
def combines : TokenKind → String → Bool
  | .int, next => Text.hasStart "." next
  | .mark m, next =>
    [("+", "+"), ("-", "-"), ("/", "*"), ("<", "-"), ("<", "<"), ("&", "&"), ("&", "^")].any
      fun (first, second) => m == first && Text.hasStart second next
  | _, _ => false

/-- A token that is neither a name nor a literal. -/
def isMark (k : TokenKind) : Bool := k != .name && !k.isLiteral

/-- Writes the line breaks that the source has in front of the token at `next`. Gives the number
of them. -/
def writeBreaks (p : Press) (next : Place) (breaks : Breaks) : Press × Nat :=
  let n := breakLimit (next.line - p.place.line)
  let n := if breaks.wrote && n == 2 then 1 else n
  if n == 0 then (p, 0) else (p.writeSpace (if breaks.dropped then .formfeed else .newline) n, n)

/-- Notes the line of the token that is written now, if that was asked for. -/
def noteLine (p : Press) : Press :=
  match p.awaited with
  | none => p
  | some slot => { p with noted := p.noted.setIfInBounds slot p.outLine, awaited := none }

/-- Writes a token. -/
def write (p : Press) (k : TokenKind) (text : String) : Press :=
  let p := p.noteOpening
  let p := if isMark k && p.lastToken.any (combines · text) then { p with spaces := [.blank] }
    else p
  let next := p.place
  let (p, breaks) := { p with lastToken := some k }.flush next k
  let (p, n) := if p.endsStatement then (p, 0) else p.writeBreaks next breaks
  { p.noteLine.writeText next text k.isLiteral with endsStatement := k.endsStatement && n == 0 }

/-- Prepares a comment of a node, where comments come from nodes. -/
def takeComment (p : Press) (g : Comments) : Press :=
  if !p.takesNodeComments then p
  else
    let p := if p.comments.isEmpty then p else (p.flush (p.lines.place g.start) .comment).1
    let p := { p with comments := [g] }
    if p.waiting.isSome then p else p.advance

end Press

namespace Draw

/-- White space. -/
def space (s : Space) : Draw Unit := modify (·.hold s)

/-- A blank. -/
def blank : Draw Unit := space .blank

/-- A line break that ends columns. -/
def formfeed : Draw Unit := space .formfeed

/-- A step to the right. -/
def indent : Draw Unit := space .indent

/-- A step to the left. -/
def unindent : Draw Unit := space .unindent

/-- A token. -/
def token (k : TokenKind) (text : String) : Draw Unit := modify (·.write k text)

/-- An operator or a delimiter. -/
def mark (m : String) : Draw Unit := token (.mark m) m

/-- A keyword. -/
def keyword (k : String) : Draw Unit := token (.keyword k) k

/-- A semicolon. -/
def semicolon : Draw Unit := token (.semicolon true) ";"

/-- Sets the place of what comes next. -/
def moveTo (offset : Nat) : Draw Unit := modify fun p => { p with place := p.lines.place offset }

/-- Sets the place of what comes next, if it is known. -/
def moveTo? (offset : Option Nat) : Draw Unit := offset.forM moveTo

/-- A mark at an offset. -/
def markAt (offset : Nat) (m : String) : Draw Unit := do
  moveTo offset
  mark m

/-- A name at its place. -/
def name (n : Name) : Draw Unit := do
  moveTo n.start
  token .name n.text

/-- A comma and a blank. -/
def comma : Draw Unit := do
  mark ","
  blank

/-- Prepares the comment of a node. -/
def comment (g : Option Comments) : Draw Unit := g.forM fun g => modify (·.takeComment g)

/-- From here, or up to here, no line break is put behind a comment. -/
def toggleBreaks : Draw Unit :=
  modify fun p => { p.noteOpening with forbidsBreak := !p.forbidsBreak }

/-- From here, or up to here, no blank is put behind a comment. -/
def toggleBlanks : Draw Unit :=
  modify fun p => { p.noteOpening with forbidsBlank := !p.forbidsBlank }

/-- The line of an offset. -/
def lineOf (offset : Nat) : Draw Nat := return (← get).lines.line offset

/-- The line of an offset that may be missing. -/
def lineOf? (offset : Option Nat) : Draw Nat := return (← get).lines.lineOf offset

/-- The line that was reached. -/
def currentLine : Draw Nat := return (← get).place.line

/-- Line breaks up to a line: at least `least` and at most two. White space may come first, and
a new section ends the columns. Gives the weight of the breaks, in which a new section counts
one more. -/
def breakTo (line least : Nat) (before : Space) (isSection : Bool) : Draw Nat := do
  let n := max (Press.breakLimit (line - (← currentLine))) least
  if n == 0 then return 0
  space before
  if isSection then formfeed
  (List.replicate (if isSection then n - 1 else n) Space.newline).forM space
  return if isSection then n + 1 else n

/-- A place to note a line. -/
def newSlot : Draw Nat :=
  modifyGet fun p => (p.noted.size, { p with noted := p.noted.push 0 })

/-- The line of the next token is noted. -/
def awaitLine (slot : Nat) : Draw Unit := modify fun p => { p with awaited := some slot }

/-- Lines were begun since a line was noted. -/
def hasLinesSince (slot : Nat) : Draw Bool := return (← get).noted.getD slot 0 < (← get).outLine

/-- A comment stands before an offset. -/
def hasCommentBefore (offset : Option Nat) : Draw Bool :=
  return (← get).hasCommentBefore ((← get).lines.placeOf offset)

/-- The distance from a column of the text, if the line of an offset was not left. -/
def distanceFrom? (offset column : Nat) : Draw (Option Nat) := do
  let p ← get
  return if p.lines.line offset == p.place.line then some (p.outColumn - column) else none

end Draw

end ApiCompiler.Go
