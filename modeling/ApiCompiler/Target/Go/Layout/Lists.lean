import ApiCompiler.Target.Go.Layout

/-!
# Lists of expressions

A list that stands on one line stays there. Otherwise the line breaks of the source are kept.
Elements on lines of their own are aligned as long as their sizes do not differ too much: an
element of which the size is far from the geometric mean of those before it begins a new
section. Logarithms are taken as linear between powers of two, so that all sizes are compared
exactly.
-/

namespace ApiCompiler.Go.Layout

open Draw

/-- How a list is drawn. -/
structure ListStyle where
  /-- Lines are not indented. -/
  isFlush : Bool
  /-- A comma ends the list if a line break does. -/
  isTerminated : Bool

/-- A list inside a statement. -/
def ListStyle.plain : ListStyle := ⟨false, false⟩

/-- A list in parentheses, brackets or braces. -/
def ListStyle.enclosed : ListStyle := ⟨false, true⟩

/-- A list that somebody else has indented. -/
def ListStyle.flush : ListStyle := ⟨true, false⟩

/-- What a list is aligned by: the sizes of the elements on the lines before, of which the sum of
the logarithms and the number are kept. -/
structure Alignment where
  logarithms : Nat
  count : Nat

namespace Alignment

/-- Nothing to align with. -/
def fresh : Alignment := ⟨0, 0⟩

/-- The parts into which the distance of two powers of two is divided, as a power of two. -/
def precision : Nat := 52

/-- The parts between two powers of two. -/
def unit : Nat := Nat.pow 2 precision

/-- The binary logarithm of a size, in parts of a unit. -/
def logarithm (size : Nat) : Nat :=
  let exponent := Nat.log2 size
  exponent * unit + (size - Nat.pow 2 exponent) * unit / Nat.pow 2 exponent

/-- One more element. An element of several lines has the size zero and does not count. -/
def add (a : Alignment) (size : Nat) : Alignment :=
  if size == 0 then a else ⟨a.logarithms + logarithm size, a.count + 1⟩

/-- The geometric mean of the sizes, in parts of a unit. -/
def mean (a : Alignment) : Nat :=
  let logarithm := a.logarithms / a.count
  (unit + logarithm % unit) * Nat.pow 2 (logarithm / unit)

/-- The sizes up to which elements are aligned in any case. -/
def smallSize : Nat := 40

/-- An element of a size does not fit to those before it: its size is at most two fifths of their
geometric mean, or at least five halves of it. -/
def breaksAt (a : Alignment) (sizeBefore size : Nat) : Bool :=
  if sizeBefore == 0 || size == 0 then true
  else if a.count == 0 || (sizeBefore ≤ smallSize && size ≤ smallSize) then false
  else 5 * size * unit ≤ 2 * a.mean || 5 * a.mean ≤ 2 * size * unit

end Alignment

/-- The state between two elements of a list. -/
structure ListState where
  /-- The white space in front of the first line break. -/
  before : Space
  /-- The index behind the first element of the line. -/
  lineStart : Nat
  size : Nat
  alignment : Alignment
  line : Nat

/-- The key and the value of an element. -/
def pair? (e : Expr) : Option (Expr × Nat × Expr) :=
  match e.form with
  | .pair key colon value => some (key, colon, value)
  | _ => none

/-- A key and its value, with white space between them. -/
def pair (l : Layout) (separator : Space) (key : Expr) (colon : Nat) (value : Expr) :
    Draw Unit := do
  l.whole key
  markAt colon ":"
  space separator
  l.whole value

/-- The size by which an element is aligned: that of its key if it has one, and zero if it does
not fit on one line. -/
def alignedSize (l : Layout) (e : Expr) : Draw Nat := do
  match ← l.exprSize? e, pair? e with
  | none, _ => return 0
  | some size, none => return size
  | some _, some (key, _, _) => return (← l.exprSize? key).getD 0

/-- What stands between two elements: a comma, and a line break or a blank. -/
def separator (s : ListState) (index line size : Nat) (e : Expr) : Draw ListState := do
  let breaks := 0 < s.line && s.line < line
  if !breaks then moveTo e.start
  mark ","
  if !breaks then
    blank
    return s
  let isSection := s.alignment.breaksAt s.size size || s.lineStart < index
  let weight ← breakTo line 0 s.before isSection
  let alignment := if 1 < weight then .fresh else s.alignment
  if weight == 0 then
    blank
    return { s with alignment }
  else return { s with before := .nothing, lineStart := index + 1, alignment }

/-- An element of a list of several lines. -/
def element (l : Layout) (depth : Nat) (isMeasured isSingle : Bool) (s : ListState)
    (item : Expr × Nat) : Draw ListState := do
  let (e, index) := item
  let line ← lineOf e.start
  let size ← if isMeasured then l.alignedSize e else pure 0
  let breaks := 0 < s.line && s.line < line
  let t ← if index == 0 then pure s else separator s index line size e
  match pair? e with
  | some (key, colon, value) =>
    if !isSingle && size != 0 && breaks then l.pair .softTab key colon value
    else l.expr e lowest depth
  | none => l.expr e lowest depth
  return { t with size, alignment := t.alignment.add size, line }

/-- A list on one line. -/
def rowOf (l : Layout) (depth : Nat) (list : List Expr) : Draw Unit :=
  list.zipIdx.forM fun (e, index) => do
    if index != 0 then
      moveTo e.start
      comma
    l.expr e lowest depth

/-- A list of expressions. `before` and `after` are the offsets of what stands around it. -/
def exprList (l : Layout) (style : ListStyle) (before : Option Nat) (list : List Expr)
    (depth : Nat) (after : Option Nat) : Draw Unit := do
  match list.head?, list.getLast? with
  | some first, some last =>
    let start ← lineOf? before
    let line ← lineOf first.start
    if before.isSome && start == line && line == (← lineOf last.stop) then l.rowOf depth list
    else
      let indentation := if style.isFlush then .nothing else .indent
      let weight ← if start < line && before.isSome then breakTo line 0 indentation true else pure 0
      let s : ListState := if weight == 0 then ⟨indentation, 0, 0, .fresh, start⟩
        else ⟨.nothing, 1, 0, .fresh, start⟩
      let s ← list.zipIdx.foldlM
        (l.element depth (before.isSome && after.isSome) (list.length == 1)) s
      let ends := style.isTerminated && after.isSome && (← currentLine) < (← lineOf? after)
      if ends then mark ","
      if s.before == .nothing && !style.isFlush then unindent
      if ends then formfeed
  | _, _ => return ()

/-- Names with commas between them. -/
def nameList (l : Layout) (isFlush : Bool) (names : List Name) : Draw Unit :=
  l.exprList ⟨isFlush, false⟩ none (names.map Name.toExpr) 1 none

end ApiCompiler.Go.Layout
