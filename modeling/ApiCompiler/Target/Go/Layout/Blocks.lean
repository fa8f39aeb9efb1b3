import ApiCompiler.Target.Go.Layout.Fields

/-!
# Blocks of statements

Statements stand on lines of their own. The body of a function may stay on its line if the
whole function is short.
-/

namespace ApiCompiler.Go

mutual

/-- The number of labels in front of a statement. -/
def Stmt.labels : Stmt → Nat
  | ⟨_, _, form⟩ => form.labels

/-- The number of labels in a form. -/
def StmtForm.labels : StmtForm → Nat
  | .labeled _ _ inner => inner.labels + 1
  | _ => 0

end

/-- A statement without text. -/
def Stmt.isEmpty (s : Stmt) : Bool :=
  match s.form with
  | .empty => true
  | _ => false

namespace Layout

open Draw

/-- A statement on a line of its own. `index` counts the statements before it. Lines are counted
from the statement behind its labels. -/
def stmtRow (l : Layout) (slot : Nat) (isNewSection : Bool) (isLast : Nat → Bool) (index : Nat)
    (s : Stmt) : Draw Nat := do
  if s.isEmpty then return index
  if (← get).count != 0 then
    let isSection := index == 0 || isNewSection || (← hasLinesSince slot)
    let _ ← breakTo (← lineOf s.start) 1 .nothing isSection
  awaitLine slot
  l.stmt s (isLast index)
  modify fun p =>
    { p with noted := p.noted.setIfInBounds slot (p.noted.getD slot 0 + s.labels) }
  return index + 1

/-- Statements on lines of their own. Clauses are not indented, and each is a new section. -/
def stmtList (l : Layout) (isIndented isLast : Bool) (list : List Stmt) : Draw Unit := do
  if isIndented then indent
  let slot ← newSlot
  let _ ← list.foldlM
    (l.stmtRow slot (!isIndented) fun index => isLast && index + 1 == list.length) 0
  if isIndented then unindent

/-- Statements in braces. -/
def block (l : Layout) (isIndented : Bool) (b : Block) : Draw Unit := do
  markAt b.opening "\x7b"
  l.stmtList isIndented true b.statements
  let _ ← breakTo (← lineOf b.closing) 1 .nothing true
  markAt b.closing "\x7d"

/-- The size up to which a function may stay on one line. -/
def smallFunction : Nat := 100

/-- The size of the body of a function if it is drawn on one line. At most five statements are. -/
def bodySize (l : Layout) (b : Block) : Draw Nat := do
  if (← lineOf b.opening) != (← lineOf b.closing) || 5 < b.statements.length then
    return smallFunction + 1
  let p ← get
  let comments := p.commentSizeBefore (p.lines.place b.closing)
  b.statements.zipIdx.foldlM (fun size (s, index) => do
    if smallFunction < size then return size
    let separator := if index == 0 then 0 else 2
    return size + separator + limited smallFunction (← l.stmtSize? s)) comments

/-- Statements on one line. -/
def rowBlock (l : Layout) (b : Block) : Draw Unit := do
  markAt b.opening "\x7b"
  if !b.statements.isEmpty then
    blank
    b.statements.zipIdx.forM fun (s, index) => do
      if index != 0 then
        semicolon
        blank
      l.stmt s (index + 1 == b.statements.length)
    blank
  toggleBreaks
  markAt b.closing "\x7d"
  toggleBreaks

/-- The body of a function behind a head of a size. The separator stands in front of a body that
stays on its line. -/
def body (l : Layout) (headSize : Option Nat) (separator : Space) (b : Block) : Draw Unit := do
  let nesting := (← get).nesting
  modify fun p => { p with nesting := 0 }
  let size ← l.bodySize b
  if headSize.any fun n => n + size ≤ smallFunction then
    space separator
    l.rowBlock b
  else
    blank
    l.block true b
  modify fun p => { p with nesting }

end Layout

end ApiCompiler.Go
