import ApiCompiler.Target.Go.BuildConstraint
import ApiCompiler.Target.Go.DocComment
import ApiCompiler.Target.Go.Press
import ApiCompiler.Target.Go.Press.BlockComment

/-!
# Putting comments in place

Before a token is printed, the comments in front of it are. They share the white space that was
kept back: a comment on the line of the last token takes what stands before the first line
break, a comment on a line of its own begins that line.
-/

namespace ApiCompiler.Go.Press

open Text

/-- The spaces in front of a comment on the line of the last token: blanks are dropped, tabs and
indentations stay. Gives the spaces, the number of those that are written, which is zero if all of
them were passed, and whether there is a tab. -/
def spacesOnLine (passed : Nat) : List Space → List Space × Nat × Bool
  | [] => ([], 0, false)
  | s :: rest =>
    let (others, n, hasTab) := spacesOnLine (passed + 1) rest
    match s with
    | .blank => (.nothing :: others, n, hasTab)
    | .softTab => (.softTab :: others, n, true)
    | .indent => (.indent :: others, n, hasTab)
    | s => (s :: rest, passed, false)

/-- The spaces in front of a comment on a line of its own. Gives the spaces, the number of those
that are written, and whether a line break was dropped. An `unindent` is written if another one
follows, or if the comment is aligned with the next token; a closing brace is not aligned. -/
def spacesBeforeLine (isAligned : Bool) (passed : Nat) : List Space → List Space × Nat × Bool
  | [] => ([], 0, false)
  | s :: rest =>
    let (others, n, dropped) := spacesBeforeLine isAligned (passed + 1) rest
    match s with
    | .blank | .softTab => (.nothing :: others, n, dropped)
    | .indent => (.indent :: others, n, dropped)
    | .unindent =>
      if rest.head? == some .unindent || isAligned then (.unindent :: others, n, dropped)
      else (s :: rest, passed, false)
    | .newline | .formfeed => (.nothing :: rest, passed, true)
    | .nothing => (s :: rest, passed, false)

/-- At most two line breaks follow each other. -/
def breakLimit (n : Nat) : Nat := min n 2

/-- Writes the white space in front of a comment. `next` is the place of the next token, and
`before` the comment in front in the same run of comments. -/
def writeCommentGap (p : Press) (place next : Place) (before : Option Comment)
    (token : TokenKind) : Press :=
  if p.count == 0 then p
  else if place.line == p.last.line && !before.any (·.isLine) then
    let (spaces, n, hasTab) :=
      if before.isNone then spacesOnLine 0 p.spaces else (p.spaces, 0, false)
    let p := { p with spaces }.writeSpaces n
    if hasTab then p
    else p.writeSpace (if place.line == next.line then .blank else .tab) 1
  else
    let isAligned := token != .mark "\x7d" && place.column == next.column
    let (spaces, n, dropped) := spacesBeforeLine isAligned 0 p.spaces
    let p := { p with spaces }.writeSpaces n
    let n := if place.isKnown && p.last.isKnown then place.line - p.last.line else 0
    let n := if p.indent == 0 && dropped && before.isNone then n + 1 else n
    let n := if n == 0 && before.any (·.isLine) then 1 else n
    if n == 0 then p else p.writeSpace .formfeed (breakLimit n)

/-- Writes the lines of a block comment. -/
def writeCommentLines (p : Press) (place : Place) : List String → Press
  | [] => p
  | line :: rest =>
    let p := if line == "" then p
      else p.writeText place (String.ofList (dropEnd isBlank line.toList)) true
    if rest.isEmpty then p
    else
      let p := p.writeSpace .formfeed 1
      p.writeCommentLines p.place rest

/-- Writes a comment. Line directives are not indented. -/
def writeComment (p : Press) (c : Comment) : Press :=
  let place := p.lines.place c.start
  let indent := p.indent
  let isDirective := hasStart "//line " c.text && place.column == 1
  let p := if isDirective then { p with indent := 0 } else p
  let p := if c.isLine then
      let p := if (Constraint.goExpression? c.text).isSome then
          { p with goBuild := p.count :: p.goBuild }
        else if (Constraint.plusExpression? c.text).isSome then
          { p with plusBuild := p.count :: p.plusBuild }
        else p
      p.writeText place (String.ofList (dropEnd isBlank c.text.toList)) true
    else
      p.writeCommentLines place
        (BlockComment.printedLines c.text (place.column == 1 && 0 < p.indent))
  { p with indent }

/-- What is left of the white space behind comments: indentation stays, and one line break if it is
needed. Gives the spaces, whether a line break is still needed, whether one stayed, and whether
a form feed was dropped. -/
def spacesBehind (needsBreak : Bool) : List Space → List Space × Bool × Bool × Bool
  | [] => ([], needsBreak, false, false)
  | s :: rest =>
    match s with
    | .newline | .formfeed =>
      let (others, needed, _, dropped) := spacesBehind false rest
      if needsBreak then (s :: others, needed, true, dropped)
      else (.nothing :: others, needed, false, dropped || s == .formfeed)
    | .indent | .unindent =>
      let (others, needed, stayed, dropped) := spacesBehind needsBreak rest
      (s :: others, needed, stayed, dropped)
    | _ =>
      let (others, needed, stayed, dropped) := spacesBehind needsBreak rest
      (.nothing :: others, needed, stayed, dropped)

/-- What happened to the white space: a line break was written, a form feed was dropped. -/
structure Breaks where
  wrote : Bool
  dropped : Bool

/-- Writes the white space behind comments. -/
def writeCommentEnd (p : Press) (needsBreak : Bool) : Press × Breaks :=
  let (spaces, needed, stayed, dropped) := spacesBehind needsBreak p.spaces
  let p := { p with spaces }.writeSpaces spaces.length
  if needed then (p.writeSpace .newline 1, ⟨true, dropped⟩) else (p, ⟨stayed, dropped⟩)

/-- A comment at the margin directly above the next token documents it. -/
def isDocs (p : Press) (g : Comments) (next : Place) : Bool :=
  p.lastToken != some (.keyword "import") && (p.lines.place g.start).column == 1 &&
    p.lines.place (g.stop + 1) == next

/-- Writes the comments of a group. -/
def writeGroup (p : Press) (next : Place) (before : Option Comment) (token : TokenKind) :
    Comments → Press × Option Comment
  | [] => (p, before)
  | c :: rest =>
    let p := (p.writeCommentGap (p.lines.place c.start) next before token).writeComment c
    p.writeGroup next (some c) token rest

/-- The end of the comments in front of a token: one blank, a line break, or nothing. -/
def endComments (p : Press) (next : Place) (token : TokenKind) (last : Comment) :
    Press × Breaks :=
  let isClosing := (token == .mark ")" && p.lastOpening != some (.mark "(")) ||
    (token == .mark "]" && p.lastOpening != some (.mark "["))
  let isApart := !p.forbidsBlank && !last.isLine && p.lines.line last.start == next.line &&
    token != .mark "," && !isClosing
  let hasBreak := p.spaces.any fun s => s == .newline || s == .formfeed
  let breaks := isApart && hasBreak && !p.forbidsBreak && p.nesting == 0
  let p := if isApart && !breaks then p.writeSpace .blank 1 else p
  p.writeCommentEnd (breaks || last.isLine || token == .finish ||
    (token == .mark "\x7d" && !p.forbidsBreak))

/-- Writes the groups of comments in front of a token. -/
def intersperse (next : Place) (token : TokenKind) :
    Nat → Option Comment → Press → Press × Breaks
  | 0, _, p => (p, ⟨false, false⟩)
  | fuel + 1, before, p =>
    match p.waiting.filter fun _ => p.hasCommentBefore next with
    | none =>
      match before with
      | some last => p.endComments next token last
      | none => (p, ⟨false, false⟩)
    | some w =>
      let g := w.comments
      if p.isDocs g next then
        let list := DocComment.layoutComments g
        if list.isEmpty then
          let p := p.writeCommentGap (p.lines.place g.start) next before token
          ({ p with place := next, last := next }.advance).writeCommentEnd false
        else
          let (p, _) := p.writeGroup next before token list
          let place := p.lines.place g.stop
          intersperse next token fuel g.getLast? { p with place, last := place }.advance
      else
        let (p, last) := p.writeGroup next before token g
        intersperse next token fuel last p.advance

/-- Writes the comments and the white space in front of a token at a place. -/
def flush (p : Press) (next : Place) (token : TokenKind) : Press × Breaks :=
  if p.hasCommentBefore next then intersperse next token (p.comments.length + 2) none p
  else (p.writeSpaces p.spaces.length, ⟨false, false⟩)

/-- A place behind everything. -/
def farPlace : Place := ⟨Nat.pow 2 30, Nat.pow 2 30, 0⟩

/-- Writes what is left at the end of a text. -/
def finish (p : Press) : Press := ({ p with endsStatement := false }.flush farPlace .finish).1

/-- The size in bytes of the comments before a place. -/
def commentSizeBefore (p : Press) (next : Place) : Nat :=
  let sizeOf := fun (g : Comments) => g.foldl (fun n c => n + c.text.utf8ByteSize) 0
  let others := p.comments.takeWhile fun g =>
    g.start < next.offset && (!p.endsStatement || !g.hasBreak p.lines)
  match p.waiting.filter fun _ => p.hasCommentBefore next with
  | some w => sizeOf w.comments + others.foldl (fun n g => n + sizeOf g) 0
  | none => 0

end ApiCompiler.Go.Press
