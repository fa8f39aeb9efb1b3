import ApiCompiler.Target.Go.Tree.Declarations

/-!
# Parsing statements

Simple statements, the headers of `if`, `switch` and `for`, clauses, and blocks.
-/

namespace ApiCompiler.Go.Grammar

open Parse

/-- Where a simple statement stands, which decides what else it may be. -/
inductive Position where
  | plain
  | mayBeLabeled
  | mayBeRange
deriving DecidableEq

/-- The header of a loop over a range: the assigned expressions, the operator and its place,
and the operand. -/
structure RangeHeader where
  left : List Expr
  place : Nat
  operator : String
  operand : Expr

/-- An expression as a statement. -/
def expressionStmt (e : Expr) : Stmt := ⟨e.start, e.stop, .expression e⟩

/-- An assignment. -/
def assignStmt (left : List Expr) (place : Nat) (operator : String) (right : List Expr) : Stmt :=
  ⟨(left.head?.map (·.start)).getD place, (right.getLast?.map (·.stop)).getD place,
    .assign left place operator right⟩

/-- A simple statement, a labeled statement, or the header of a loop over a range. -/
def simpleOrRange (g : Grammar) (position : Position) : Parse (Stmt ⊕ RangeHeader) := do
  let left ← g.expressions
  let t ← peek
  match t.kind, left with
  | .mark m, first :: rest =>
    if assignments.contains m then
      skip
      if position == .mayBeRange && (m == ":=" || m == "=") && (← isAt (.keyword "range")) then
        skip
        return .inr ⟨left, t.start, m, ← g.expression⟩
      else return .inl (assignStmt left t.start m (← g.expressions))
    else if !rest.isEmpty then malformed
    else if m == ":" then
      match first.name? with
      | some label =>
        if position != .mayBeLabeled then malformed
        else
          skip
          let inner ← g.statement
          return .inl ⟨label.start, inner.stop, .labeled label t.start inner⟩
      | none => malformed
    else if m == "<-" then
      skip
      let value ← g.expression
      return .inl ⟨first.start, value.stop, .send first t.start value⟩
    else if m == "++" || m == "--" then
      skip
      return .inl ⟨first.start, t.stop, .step first t.start m⟩
    else return .inl (expressionStmt first)
  | _, [first] => return .inl (expressionStmt first)
  | _, _ => malformed

/-- A simple statement. -/
def simple (g : Grammar) : Parse Stmt := do
  match ← g.simpleOrRange .plain with
  | .inl s => return s
  | .inr _ => malformed

/-- A simple statement, unless a mark or the end of a statement comes first. -/
def simpleUnless (g : Grammar) (stops : TokenKind → Bool) : Parse (Option Stmt) := do
  if stops (← kind) then return none else return some (← g.simple)

/-- A brace that opens the body. -/
def opensBody (k : TokenKind) : Bool := k == .mark "\x7b"

/-- The expression that a statement consists of. -/
def expressionOf (s : Stmt) : Parse Expr :=
  match s.form with
  | .expression e => pure e
  | _ => malformed

/-- The expression that a statement consists of, if there is a statement. -/
def expressionOf? : Option Stmt → Parse (Option Expr)
  | none => pure none
  | some s => some <$> expressionOf s

/-- The header of a conditional statement. -/
def choiceHeader (g : Grammar) : Parse (Option Stmt × Expr) := inHeader do
  let first ← g.simpleUnless TokenKind.isSemicolon
  match first, ← kind with
  | some s, .mark "\x7b" => return (none, ← expressionOf s)
  | _, .semicolon _ =>
    skip
    return (first, ← expressionOf (← g.simple))
  | _, _ => malformed

/-- A conditional statement. -/
def choice (g : Grammar) : Parse Stmt := do
  let start ← keyword "if"
  if opensBody (← kind) then malformed
  let (setUp, condition) ← g.choiceHeader
  let body ← g.block
  if ← isAt (.keyword "else") then
    skip
    let t ← peek
    match t.kind with
    | .keyword "if" =>
      let otherwise ← g.statement
      return ⟨start, otherwise.stop, .choice setUp condition body (some otherwise)⟩
    | .mark "\x7b" =>
      let other ← g.block
      let _ ← endStatement
      return ⟨start, other.closing + 1,
        .choice setUp condition body (some ⟨other.opening, other.closing + 1, .block other⟩)⟩
    | _ => malformed
  else
    let _ ← endStatement
    return ⟨start, body.closing + 1, .choice setUp condition body none⟩

/-- The offset behind a clause. -/
def clauseStop (colon : Nat) (body : List Stmt) : Nat :=
  (body.getLast?.map (·.stop)).getD (colon + 1)

/-- A clause of a `switch`. -/
def valueClause (g : Grammar) : Parse Stmt := do
  let t ← next
  let values ← if t.kind == .keyword "case" then g.expressions else pure []
  let colon ← mark ":"
  let body ← g.statements
  return ⟨t.start, clauseStop colon body, .valueClause values colon body⟩

/-- A token that begins a clause. -/
def opensClause (k : TokenKind) : Bool := k == .keyword "case" || k == .keyword "default"

/-- Clauses in braces. -/
def clauses (clause : Parse Stmt) : Parse Block := do
  let opening ← mark "\x7b"
  let list ← manyWhile opensClause clause
  let closing ← mark "\x7d"
  let _ ← endStatement
  return ⟨opening, list, closing⟩

/-- The assertion in the header of a `switch` over types. -/
def isTypeAssertion (e : Expr) : Bool :=
  match e.form with
  | .assertion _ _ none _ => true
  | _ => false

/-- A header of a `switch` over types. -/
def isTypeGuard (s : Stmt) : Bool :=
  match s.form with
  | .expression e => isTypeAssertion e
  | .assign [_] _ ":=" [e] => isTypeAssertion e
  | _ => false

/-- The header of a `switch`. -/
def switchHeader (g : Grammar) : Parse (Option Stmt × Option Stmt) := do
  if opensBody (← kind) then return (none, none)
  inHeader do
    let first ← g.simpleUnless TokenKind.isSemicolon
    if (← kind).isSemicolon then
      skip
      return (first, ← g.simpleUnless opensBody)
    else return (none, first)

/-- A `switch` over values or over types. -/
def switch (g : Grammar) : Parse Stmt := do
  let start ← keyword "switch"
  let (setUp, tag) ← g.switchHeader
  match tag.filter isTypeGuard with
  | some guard =>
    let body ← clauses g.valueClause
    return ⟨start, body.closing + 1, .typeSwitch setUp guard body⟩
  | none =>
    let tag ← expressionOf? tag
    let body ← clauses g.valueClause
    return ⟨start, body.closing + 1, .switch setUp tag body⟩

/-- The event of a clause of a `select`. -/
def event (g : Grammar) : Parse Stmt := do
  let left ← g.expressions
  let t ← peek
  match t.kind, left with
  | .mark "<-", [channel] =>
    skip
    let value ← g.expression
    return ⟨channel.start, value.stop, .send channel t.start value⟩
  | .mark m, _ =>
    if m == "=" || m == ":=" then
      if left.length ≤ 2 then
        skip
        return assignStmt left t.start m [← g.expression]
      else malformed
    else
      match left with
      | [e] => return expressionStmt e
      | _ => malformed
  | _, [e] => return expressionStmt e
  | _, _ => malformed

/-- A clause of a `select`. -/
def eventClause (g : Grammar) : Parse Stmt := do
  let t ← next
  let event ← if t.kind == .keyword "case" then some <$> g.event else pure none
  let colon ← mark ":"
  let body ← g.statements
  return ⟨t.start, clauseStop colon body, .eventClause event colon body⟩

/-- A `select`. -/
def select (g : Grammar) : Parse Stmt := do
  let start ← keyword "select"
  let body ← clauses g.eventClause
  return ⟨start, body.closing + 1, .select body⟩

/-- The header of a loop: a range, or up to three statements. -/
def loopHeader (g : Grammar) :
    Parse (RangeHeader ⊕ (Option Stmt × Option Stmt × Option Stmt)) := do
  if opensBody (← kind) then return .inr (none, none, none)
  inHeader do
    let t ← peek
    if t.kind == .keyword "range" then
      skip
      return .inl ⟨[], 0, "", ← g.expression⟩
    let first ← if t.kind.isSemicolon then pure none
      else do
        match ← g.simpleOrRange .mayBeRange with
        | .inr header => return .inl header
        | .inl s => pure (some s)
    if (← kind).isSemicolon then
      skip
      let condition ← g.simpleUnless TokenKind.isSemicolon
      let _ ← endStatement
      return .inr (first, condition, ← g.simpleUnless opensBody)
    else return .inr (none, first, none)

/-- A loop. -/
def loop (g : Grammar) : Parse Stmt := do
  let start ← keyword "for"
  let header ← g.loopHeader
  let body ← g.block
  let _ ← endStatement
  let stop := body.closing + 1
  match header with
  | .inr (setUp, condition, after) =>
    return ⟨start, stop, .loop setUp (← expressionOf? condition) after body⟩
  | .inl ⟨[], place, operator, operand⟩ =>
    return ⟨start, stop, .range none none place operator operand body⟩
  | .inl ⟨[key], place, operator, operand⟩ =>
    return ⟨start, stop, .range (some key) none place operator operand body⟩
  | .inl ⟨[key, value], place, operator, operand⟩ =>
    return ⟨start, stop, .range (some key) (some value) place operator operand body⟩
  | .inl _ => malformed

/-- A call that runs by itself or at the end of the function. -/
def launch (g : Grammar) : Parse Stmt := do
  let t ← next
  let call ← g.expression
  let _ ← endStatement
  match call.form with
  | .call .. => return ⟨t.start, call.stop, .launch t.text call⟩
  | _ => malformed

/-- The end of a function, with its results. -/
def answer (g : Grammar) : Parse Stmt := do
  let t ← next
  let k ← kind
  let results ← if k.isSemicolon || k == .mark "\x7d" then pure [] else g.expressions
  let _ ← endStatement
  return ⟨t.start, (results.getLast?.map (·.stop)).getD t.stop, .answer results⟩

/-- A jump, which may have a label. -/
def branch : Parse Stmt := do
  let t ← next
  let hasLabel ← if t.text == "goto" then pure true
    else if t.text == "fallthrough" then pure false
    else isAt .name
  let label ← if hasLabel then some <$> name else pure none
  let _ ← endStatement
  return ⟨t.start, (label.map (·.stop)).getD t.stop, .branch t.text label⟩

/-- The marks that begin an expression. -/
def expressionMarks : List String := ["(", "[", "+", "-", "*", "&", "^", "<-", "!"]

/-- The keywords that begin an expression. -/
def expressionWords : List String := ["func", "struct", "map", "chan", "interface"]

/-- A token that begins an expression. -/
def opensExpression (k : TokenKind) : Bool :=
  k == .name || k.isLiteral ||
    match k with
    | .mark m => expressionMarks.contains m
    | .keyword w => expressionWords.contains w
    | _ => false

/-- A simple or a labeled statement with its end. -/
def simpleStep (g : Grammar) : Parse Stmt := do
  match ← g.simpleOrRange .mayBeLabeled with
  | .inr _ => malformed
  | .inl s =>
    match s.form with
    | .labeled .. => return s
    | _ =>
      let _ ← endStatement
      return s

/-- A statement. -/
def statementStep (g : Grammar) : Parse Stmt := do
  let t ← peek
  if opensExpression t.kind then g.simpleStep
  else
    match t.kind with
    | .keyword w =>
      if ["const", "type", "var"].contains w then
        let d ← g.group w
        return ⟨d.start, d.stop, .declaration d⟩
      else if w == "go" || w == "defer" then g.launch
      else if w == "return" then g.answer
      else if ["break", "continue", "goto", "fallthrough"].contains w then branch
      else if w == "if" then g.choice
      else if w == "switch" then g.switch
      else if w == "select" then g.select
      else if w == "for" then g.loop
      else malformed
    | .mark "\x7b" =>
      let body ← g.block
      let _ ← endStatement
      return ⟨body.opening, body.closing + 1, .block body⟩
    | .mark "\x7d" => return ⟨t.start, t.start, .empty⟩
    | .semicolon isWritten =>
      skip
      return ⟨t.start, if isWritten then t.stop else t.start, .empty⟩
    | _ => malformed

/-- One more level of nesting. -/
def deepened (g : Grammar) : Grammar :=
  ⟨g.typeStep, g.unaryStep, g.expressionStep, g.statementStep⟩

/-- The grammar of texts nested up to a number of levels above a grammar. -/
def deepenedBy (g : Grammar) : Nat → Grammar
  | 0 => g
  | levels + 1 => g.deepened.deepenedBy levels

/-- The grammar of texts nested up to a number of levels. -/
def ofDepth (levels : Nat) : Grammar :=
  (⟨malformed, malformed, malformed, malformed⟩ : Grammar).deepenedBy levels

end ApiCompiler.Go.Grammar
