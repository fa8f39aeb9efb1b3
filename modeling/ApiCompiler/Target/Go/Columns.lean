import ApiCompiler.Target.Go.Ink

/-!
# Columns

Cells that stand below each other in successive lines form a column, which is as wide as its
widest cell and one blank. The last cell of a line belongs to no column. Cells are filled up
with blanks, and empty cells at the beginning of a line with tabs.
-/

namespace ApiCompiler.Go.Columns

/-- A cell. A soft cell does not keep its column if the whole column is empty. -/
structure Cell where
  inks : List Ink
  isSoft : Bool
deriving Repr

/-- A line of cells, and the break that ends it. -/
structure Row where
  cells : List Cell
  ending : Option Ink
deriving Repr

/-- The number of characters of a cell. -/
def Cell.width (c : Cell) : Nat := c.inks.foldl (fun n i => n + i.content.length) 0

/-- The rows of a text. The pieces of the cell and the cells of the row that were begun come in
reverse order. -/
def rowsFrom (cell : List Ink) (row : List Cell) : List Ink → List Row
  | [] =>
    let row := if cell.isEmpty then row else ⟨cell.reverse, true⟩ :: row
    if row.isEmpty then [] else [⟨row.reverse, none⟩]
  | .tab :: rest => rowsFrom [] (⟨cell.reverse, false⟩ :: row) rest
  | .softTab :: rest => rowsFrom [] (⟨cell.reverse, true⟩ :: row) rest
  | i :: rest =>
    if i.isBreak then ⟨(⟨cell.reverse, true⟩ :: row).reverse, some i⟩ :: rowsFrom [] [] rest
    else rowsFrom (i :: cell) row rest

/-- The columns do not go on behind a row: it ends with a form feed, or it has no columns. -/
def Row.isEnd (r : Row) : Bool := r.ending == some .formfeed || r.cells.length == 1

/-- Rows in sections; no column reaches from one to the next. -/
def sections : List Row → List (List Row)
  | [] => []
  | r :: rest =>
    if r.isEnd then [r] :: sections rest
    else
      match sections rest with
      | [] => [[r]]
      | s :: more => (r :: s) :: more

/-- A cell with the width of its column, if it belongs to one. -/
structure Slot where
  cell : Cell
  width : Option Nat

/-- A line has a column at its beginning. -/
def hasColumn (cells : List Cell) : Bool := 1 < cells.length

/-- The width of a column. A column of empty soft cells disappears. -/
def columnWidth (column : List Cell) : Nat :=
  if column.all fun c => c.isSoft && c.width == 0 then 0
  else column.foldl (fun n c => max n (c.width + 1)) 0

/-- The widths of the columns of lines, up to a number of columns. Successive lines with a first
column share it, and then the columns of what follows it are found. -/
def fit : Nat → List (List Cell) → List (List Slot)
  | 0, lines => lines.map fun cells => cells.map (⟨·, none⟩)
  | levels + 1, lines =>
    (lines.splitBy fun a b => hasColumn a == hasColumn b).flatMap fun run =>
      if run.head?.any hasColumn then
        let column := run.filterMap List.head?
        let width := columnWidth column
        List.zipWith (fun cell slots => ⟨cell, some width⟩ :: slots) column
          (fit levels (run.map List.tail))
      else run.map fun cells => cells.map (⟨·, none⟩)

/-- The width of a tab. -/
def tabWidth : Nat := 8

/-- A line. `isStart` says that only empty cells came before. -/
def line (isStart : Bool) : List Slot → List Ink
  | [] => []
  | s :: rest =>
    let width := s.width.getD 0
    if s.cell.inks.isEmpty then
      let filling := if isStart then List.replicate ((width + tabWidth - 1) / tabWidth) Ink.tab
        else List.replicate width Ink.blank
      filling ++ line isStart rest
    else s.cell.inks ++ List.replicate (width - s.cell.width) Ink.blank ++ line false rest

/-- The lines of a section. -/
def sectionLines (rows : List Row) : List Ink :=
  let levels := rows.foldl (fun n r => max n r.cells.length) 0
  (List.zipWith (fun slots (r : Row) => line true slots ++ r.ending.toList)
    (fit levels (rows.map (·.cells))) rows).flatten

/-- A text with aligned columns. -/
def align (inks : List Ink) : List Ink := (sections (rowsFrom [] [] inks)).flatMap sectionLines

end ApiCompiler.Go.Columns
