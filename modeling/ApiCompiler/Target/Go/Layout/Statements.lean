import ApiCompiler.Target.Go.Layout.Declarations
import ApiCompiler.Target.Go.Tree.OpenComposite

/-!
# Statements

Headers of statements lose parentheses that are not needed. Labels stand one step to the left
of their statements.
-/

namespace ApiCompiler.Go

namespace Layout

open Draw

/-- The header of a statement without a third part. -/
def header (l : Layout) (setUp : Option Stmt) (condition : Option Expr) : Draw Unit := do
  blank
  setUp.forM fun s => do
    l.stmt s false
    semicolon
    blank
  condition.forM fun e => do
    l.whole e.bare
    blank

/-- The header of a loop. Semicolons stand in it unless there is only a condition. -/
def loopHeader (l : Layout) (setUp : Option Stmt) (condition : Option Expr)
    (after : Option Stmt) : Draw Unit := do
  if setUp.isNone && after.isNone then l.header none condition
  else
    blank
    setUp.forM fun s => l.stmt s false
    semicolon
    blank
    condition.forM fun e => l.whole e.bare
    semicolon
    blank
    after.forM fun s => do
      l.stmt s false
      blank

/-- A composite value or a call, possibly below unary operators or in parentheses. Its lines stand
between brackets of their own. -/
def isBracketed : Expr → Bool
  | ⟨_, _, .composite ..⟩ | ⟨_, _, .call ..⟩ => true
  | ⟨_, _, .paren inner _⟩ => isBracketed inner
  | ⟨_, _, .star operand⟩ | ⟨_, _, .unary _ operand⟩ => isBracketed operand
  | _ => false

/-- The lines on which the elements of a list begin and end, with the line on which the element
before it ends. Some element begins on a new line, or several elements have several lines, where
composite values and calls do not count. -/
def isSpread (lines : LineTable) (line : Nat) (tall : Nat) : List Expr → Bool
  | [] => 1 < tall
  | e :: rest =>
    let first := lines.line e.start
    let last := lines.line e.stop
    let isTall := first < last && !isBracketed e
    line < first || isSpread lines last (if isTall then tall + 1 else tall) rest

/-- A list that looks better if all of it is indented. -/
def needsIndent (lines : LineTable) (list : List Expr) : Bool :=
  match list.head?, list.getLast? with
  | some first, some last =>
    let line := lines.line first.start
    1 < list.length && line < lines.line last.stop && isSpread lines line 0 list
  | _, _ => false

/-- The results of a function. -/
def answer (l : Layout) (results : List Expr) : Draw Unit := do
  keyword "return"
  if !results.isEmpty then
    blank
    if needsIndent (← get).lines results then
      indent
      l.exprList .flush none results 1 none
      unindent
    else l.exprList .plain none results 1 none

/-- A labeled statement. -/
def labeled (l : Layout) (label : Name) (colon : Nat) (inner : Stmt) (isLast : Bool) :
    Draw Unit := do
  unindent
  l.whole label.toExpr
  markAt colon ":"
  indent
  if inner.isEmpty then
    if isLast then l.stmt inner isLast
    else
      space .newline
      moveTo inner.start
      semicolon
  else
    let _ ← breakTo (← lineOf inner.start) 1 .nothing true
    l.stmt inner isLast

/-- A clause: its colon and its statements. -/
def clause (l : Layout) (colon : Nat) (list : List Stmt) (isLast : Bool) : Draw Unit := do
  markAt colon ":"
  l.stmtList true isLast list

/-- The assigned expressions of a loop over a range. -/
def rangeTargets (l : Layout) (key value : Option Expr) (place : Nat) (operator : String) :
    Draw Unit :=
  key.forM fun k => do
    l.whole k
    value.forM fun v => do
      moveTo v.start
      comma
      l.whole v
    blank
    markAt place operator
    blank

/-- A statement, which may stand in front of a closing brace. -/
def stmtStep (l : Layout) (s : Stmt) (isLast : Bool) : Draw Unit := do
  moveTo s.start
  match s.form with
  | .empty => return ()
  | .declaration g => l.group g
  | .labeled label colon inner => l.labeled label colon inner isLast
  | .expression e => l.whole e
  | .send target arrow value =>
    l.whole target
    blank
    markAt arrow "<-"
    blank
    l.whole value
  | .step operand place operator =>
    l.expr operand lowest 2
    markAt place operator
  | .assign left place operator right =>
    let depth := if 1 < left.length && 1 < right.length then 2 else 1
    l.exprList .plain (some s.start) left depth (some place)
    blank
    markAt place operator
    blank
    l.exprList .plain (some place) right depth none
  | .launch word call =>
    keyword word
    blank
    l.whole call
  | .answer results => l.answer results
  | .branch word label =>
    keyword word
    label.forM fun n => do
      blank
      l.whole n.toExpr
  | .block b => l.block true b
  | .choice setUp condition b otherwise =>
    keyword "if"
    l.header setUp (some condition)
    l.block true b
    otherwise.forM fun other => do
      blank
      keyword "else"
      blank
      l.stmt other isLast
  | .valueClause list colon b =>
    if list.isEmpty then keyword "default"
    else
      keyword "case"
      blank
      l.exprList .plain (some s.start) list 1 (some colon)
    l.clause colon b isLast
  | .eventClause event colon b =>
    match event with
    | none => keyword "default"
    | some e =>
      keyword "case"
      blank
      l.stmt e false
    l.clause colon b isLast
  | .switch setUp tag b =>
    keyword "switch"
    l.header setUp tag
    l.block false b
  | .typeSwitch setUp guard b =>
    keyword "switch"
    setUp.forM fun first => do
      blank
      l.stmt first false
      semicolon
    blank
    l.stmt guard false
    blank
    l.block false b
  | .select b =>
    keyword "select"
    blank
    if b.statements.isEmpty && !(← hasCommentBefore (some b.closing)) then
      markAt b.opening "\x7b"
      markAt b.closing "\x7d"
    else l.block false b
  | .loop setUp condition after b =>
    keyword "for"
    l.loopHeader setUp condition after
    l.block true b
  | .range key value place operator operand b =>
    keyword "for"
    blank
    l.rangeTargets key value place operator
    keyword "range"
    blank
    l.whole operand.bare
    blank
    l.block true b

/-- The layout of trees nested up to a number of levels. -/
def ofDepth : Nat → Layout
  | 0 => ⟨fun _ _ _ => pure (), fun _ _ => pure ()⟩
  | levels + 1 =>
    ⟨fun e below depth => (ofDepth levels).exprStep e below depth,
     fun s isLast => (ofDepth levels).stmtStep s isLast⟩

end Layout

end ApiCompiler.Go
