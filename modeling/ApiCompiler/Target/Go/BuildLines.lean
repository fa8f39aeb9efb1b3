import ApiCompiler.Target.Go.BuildConstraint
import ApiCompiler.Target.Go.Ink

/-!
# The lines of build constraints

The build constraints of a file stand together above its package clause, with an empty line
behind them. Wherever their comments were printed, they are gathered there, in both notations
if the older one was used. Lines are found in the characters of the text, where a form feed ends
a line even inside a comment.
-/

namespace ApiCompiler.Go.BuildLines

open Text

/-- A character of a printed text, or an end of a verbatim piece. -/
inductive Glyph where
  | char (c : Char)
  | quote
deriving DecidableEq

namespace Glyph

/-- The end of a line. -/
def isBreak (g : Glyph) : Bool := g == char '\n' || g == char '\x0c'

/-- White space at the beginning of a line. -/
def isIndent (g : Glyph) : Bool := g == char ' ' || g == char '\t'

/-- The character of a glyph. -/
def char? : Glyph → Option Char
  | char c => some c
  | quote => none

end Glyph

/-- The glyphs of a piece. -/
def glyphs : Ink → List Glyph
  | .blank => [.char ' ']
  | .tab => [.char '\t']
  | .softTab => [.char '\x0b']
  | .newline => [.char '\n']
  | .formfeed => [.char '\x0c']
  | .text s => s.toList.map .char
  | .verbatim s => .quote :: s.toList.map .char ++ [.quote]

/-- The white space that a character outside of verbatim pieces is. -/
def inkOf? (c : Char) : Option Ink :=
  [(' ', Ink.blank), ('\t', .tab), ('\x0b', .softTab), ('\n', .newline),
   ('\x0c', .formfeed)].lookup c

/-- The text before a white space or a verbatim piece; its characters come in reverse order. -/
def textOf (cs : List Char) : List Ink :=
  if cs.isEmpty then [] else [.text (String.ofList cs.reverse)]

/-- The pieces of glyphs behind the characters of a piece, which come in reverse order. -/
def inksFrom (isVerbatim : Bool) (cs : List Char) : List Glyph → List Ink
  | [] => if isVerbatim then [.verbatim (String.ofList cs.reverse)] else textOf cs
  | .quote :: rest =>
    if isVerbatim then .verbatim (String.ofList cs.reverse) :: inksFrom false [] rest
    else textOf cs ++ inksFrom true [] rest
  | .char c :: rest =>
    match if isVerbatim then none else inkOf? c with
    | some i => textOf cs ++ i :: inksFrom false [] rest
    | none => inksFrom isVerbatim (c :: cs) rest

/-- A comment up to the end of its line begins here. -/
def startsComment (gs : List Glyph) : Bool :=
  gs.take 3 == [.quote, .char '/', .char '/'] && 3 < gs.length

/-- The place behind the last empty line that has only comments before it. `passed` glyphs were
passed, `found` is the place that was found. -/
def placeFrom (passed found : Nat) (isComment : Bool) : List Glyph → Nat
  | [] => found
  | g :: rest =>
    if g.isBreak then
      placeFrom (passed + 1) (if isComment then found else passed + 1) false rest
    else if isComment || g.isIndent then placeFrom (passed + 1) found isComment rest
    else if startsComment (g :: rest) then placeFrom (passed + 1) found true rest
    else found

/-- The rest of a line with its break. -/
def restOfLine (gs : List Glyph) : List Glyph :=
  let before := gs.takeWhile fun g => !g.isBreak
  before ++ (gs.drop before.length).take 1

/-- The text of a comment that begins a list of glyphs. -/
def commentText (gs : List Glyph) : String :=
  let content := if gs.head? == some .quote then gs.tail else gs
  String.ofList ((content.takeWhile fun g => g != .quote && !g.isBreak).filterMap Glyph.char?)

/-- The constraint of comments of the older notation, which hold together. -/
def conjunction? (comments : List String) : Option Constraint := do
  match ← comments.mapM Constraint.ofComment? with
  | [] => none
  | first :: rest => some (rest.foldl .and first)

/-- The constraint that comments state, if they state one: a single comment of the newer notation,
or any number of the older one. -/
def constraint? (newer older : List String) : Option Constraint :=
  match newer with
  | [] => conjunction? older
  | [comment] => Constraint.ofComment? comment
  | _ => none

/-- A line that holds a comment. -/
def commentLine (text : String) : List Glyph := glyphs (.verbatim text) ++ glyphs .newline

/-- The glyphs end with an empty line. -/
def endsBlank (gs : List Glyph) : Bool :=
  2 ≤ gs.length && (gs.reverse.take 2).all Glyph.isBreak

/-- Lines behind lines, without a second empty line between them. -/
def joinLines (before after : List Glyph) : List Glyph :=
  let isApart := before.isEmpty || endsBlank before
  before ++ if isApart && after.head?.any Glyph.isBreak then after.tail else after

/-- The glyphs from a place on without the lines that begin at some places, which are in order. -/
def without (gs kept : List Glyph) (start : Nat) : List Nat → List Glyph
  | [] => joinLines kept (gs.drop start)
  | place :: rest =>
    if place < start then without gs kept start rest
    else
      let kept := joinLines kept ((gs.drop start).take (place - start))
      without gs kept (place + (restOfLine (gs.drop place)).length) rest

/-- A text without a second line break at its end. -/
def trimEnd (gs : List Glyph) : List Glyph := if endsBlank gs then gs.dropLast else gs

/-- The lines of the gathered constraints. Comments that state no constraint stay as they are. -/
def blockOf (gs : List Glyph) (newer older : List Nat) : List Glyph :=
  let textAt := fun place => commentText (gs.drop place)
  let lines := match constraint? (newer.map textAt) (older.map textAt) with
    | none => (newer ++ older).flatMap fun place => restOfLine (gs.drop place)
    | some c =>
      commentLine ("//go:build " ++ c.text) ++
        if older.isEmpty then [] else c.plusLines.flatMap commentLine
  lines ++ glyphs .newline

/-- Glyphs with their build constraints gathered. `newer` and `older` are the places of the
comments in the two notations, in order. -/
def gathered (gs : List Glyph) (newer older : List Nat) : List Glyph :=
  let found := placeFrom 0 0 false gs
  let place := match newer, older with
    | first :: _, older => if first < found then first else min found (older.headD found)
    | [], older => min found (older.headD found)
  let after := trimEnd (without gs [] place ((newer ++ older).mergeSort))
  gs.take place ++ blockOf gs newer older ++ after

/-- A text with its build constraints gathered. `newer` and `older` are the numbers of pieces in
front of the comments in the two notations, in order. -/
def gather (inks : List Ink) (newer older : List Nat) : List Ink :=
  if newer.isEmpty && older.isEmpty then inks
  else
    let placeOf := fun count => ((inks.take count).flatMap glyphs).length
    inksFrom false [] (gathered (inks.flatMap glyphs) (newer.map placeOf) (older.map placeOf))

end ApiCompiler.Go.BuildLines
