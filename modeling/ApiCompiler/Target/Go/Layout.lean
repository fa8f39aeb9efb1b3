import ApiCompiler.Target.Go.Draw

/-!
# Layouts

A layout draws expressions and statements. It is a record, so that the parts of the tree which
contain each other can be drawn by definitions that follow each other.
-/

namespace ApiCompiler.Go

/-- How expressions and statements are drawn. -/
structure Layout where
  /-- An expression below an operator of a precedence, at a depth. The deeper an expression is,
  the fewer blanks stand in it. -/
  expr : Expr → (precedence depth : Nat) → Draw Unit
  /-- A statement, which may stand in front of a closing brace. -/
  stmt : Stmt → (isLast : Bool) → Draw Unit

namespace Layout

/-- Precedences below and above all binary operators, and that of unary operators. -/
def lowest : Nat := 0
def unary : Nat := 6
def highest : Nat := 7

/-- An expression by itself. -/
def whole (l : Layout) (e : Expr) : Draw Unit := l.expr e lowest 1

/-- Takes the sizes that were found so far out of the press. -/
def takeSizes : Draw Sizes := modifyGet fun p => (p.sizes, { p with sizes := ∅ })

/-- The size of a drawing by itself, if it fits on one line. A drawing is measured only once,
because the parts of a drawing are measured too, at every level. -/
def sizeOf? (what : Measured) (indent : Nat) (drawing : Draw Unit) : Draw (Option Nat) := do
  match (← get).sizes.get? what with
  | some size => return size
  | none =>
    let lines := (← get).lines
    let sizes ← takeSizes
    let p := (drawing.run { Press.new lines false none with indent, sizes }).2.finish
    let size := Ink.lineSize? p.inks.reverse
    modify fun q => { q with sizes := p.sizes.insert what size }
    return size

/-- The size of an expression, if it fits on one line. -/
def exprSize? (l : Layout) (e : Expr) : Draw (Option Nat) :=
  sizeOf? ⟨e.start, e.stop, false⟩ 0 (l.whole e)

/-- The size of a statement, if it fits on one line. The label of a statement stands to the left
of it, so there has to be room. -/
def stmtSize? (l : Layout) (s : Stmt) : Draw (Option Nat) :=
  let indent := match s.form with
    | .labeled .. => 1
    | _ => 0
  sizeOf? ⟨s.start, s.stop, true⟩ indent (l.stmt s false)

/-- A size with a limit; one more than the limit stands for everything larger. -/
def limited (limit : Nat) (size : Option Nat) : Nat := min (size.getD (limit + 1)) (limit + 1)

end Layout

end ApiCompiler.Go
