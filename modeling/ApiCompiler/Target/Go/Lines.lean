import ApiCompiler.Text.Split

/-!
# Places in a text

A place is an offset in bytes together with its line and column, which both count from one. The
line table of a text turns offsets into places.
-/

namespace ApiCompiler.Go

open Text

/-- A place in a text. Line zero means that the place is not known. -/
structure Place where
  offset : Nat
  line : Nat
  column : Nat
deriving DecidableEq, Repr

namespace Place

/-- The place of nothing. -/
def unknown : Place := ⟨0, 0, 0⟩

/-- The beginning of a text. -/
def first : Place := ⟨0, 1, 1⟩

/-- A place that is known. -/
def isKnown (p : Place) : Bool := p.line != 0

end Place

/-- The offsets at which the lines of a text begin. -/
structure LineTable where
  starts : Array Nat
deriving Repr

namespace LineTable

/-- The offsets behind the line breaks of a text that begins at an offset. -/
def startsFrom (offset : Nat) : List Char → List Nat
  | [] => []
  | c :: rest =>
    let next := offset + c.utf8Size
    if c = '\n' && !rest.isEmpty then next :: startsFrom next rest else startsFrom next rest

/-- The line table of a text. -/
def ofChars (cs : List Char) : LineTable := ⟨(0 :: startsFrom 0 cs).toArray⟩

/-- The last index from `low` up to but not including `high` whose line begins at or before an
offset, if the line at `low` does. Every step halves the distance of the bounds. -/
def search (t : LineTable) (offset : Nat) : Nat → Nat → Nat → Nat
  | 0, low, _ => low
  | fuel + 1, low, high =>
    if low + 1 < high then
      let middle := (low + high) / 2
      if t.starts.getD middle 0 ≤ offset then search t offset fuel middle high
      else search t offset fuel low middle
    else low

/-- The place of an offset. -/
def place (t : LineTable) (offset : Nat) : Place :=
  let index := t.search offset t.starts.size 0 t.starts.size
  ⟨offset, index + 1, offset - t.starts.getD index 0 + 1⟩

/-- The line of an offset. -/
def line (t : LineTable) (offset : Nat) : Nat := (t.place offset).line

/-- The offset at which a line begins, if the text has that line. -/
def lineStart? (t : LineTable) (line : Nat) : Option Nat := t.starts[line - 1]?

/-- The offset at which a line begins. -/
def lineStart (t : LineTable) (line : Nat) : Nat := (t.lineStart? line).getD 0

/-- The lines of a text, where a line and the next one are one line. -/
def joined (t : LineTable) (line : Nat) : LineTable := ⟨t.starts.eraseIdxIfInBounds line⟩

/-- The lines of a text, where a line and a number of lines behind it are one line. -/
def joinedMany (t : LineTable) (line : Nat) : Nat → LineTable
  | 0 => t
  | n + 1 => (t.joined line).joinedMany line n

/-- A line begins at an offset. -/
def isLineStart (t : LineTable) (offset : Nat) : Bool := (t.place offset).column == 1

/-- The place of an offset that may be missing. -/
def placeOf (t : LineTable) (offset : Option Nat) : Place := offset.elim .unknown t.place

/-- The line of an offset that may be missing; zero if it is. -/
def lineOf (t : LineTable) (offset : Option Nat) : Nat := (t.placeOf offset).line

end LineTable

end ApiCompiler.Go
