import ApiCompiler.Target.Go.Layout.Blocks
import ApiCompiler.Text.Split

/-!
# Expressions

Numbers are printed in their usual form: marks of bases and exponents are small letters, and an
imaginary number without a point or an exponent has no zeros in front.

Blanks around binary operators show how tightly they bind: which operators get blanks depends
on the operators of the whole expression and on its depth. A selector behind a line break is
indented.
-/

/-! ## Numbers -/

namespace ApiCompiler.Go.Number

open Text

/-- The last occurrence of a character replaced by another one, if there is one. -/
def replaceLast? (old new : Char) (cs : List Char) : Option (List Char) :=
  (cutAt old cs.reverse).map fun (behind, before) => (behind ++ new :: before).reverse

/-- The usual form of a decimal number, or of an octal one with only a zero in front. -/
def decimal (cs : List Char) : List Char :=
  match replaceLast? 'E' 'e' cs with
  | some cs => cs
  | none =>
    if cs.getLast? == some 'i' && !cs.any (fun c => c == '.' || c == 'e') then
      match cs.dropWhile fun c => c == '0' || c == '_' with
      | ['i'] => ['0', 'i']
      | rest => rest
    else cs

/-- The usual form of a number. -/
def usual (text : String) : String :=
  String.ofList <|
    match text.toList with
    | '0' :: c :: rest =>
      if c == 'x' || c == 'X' then '0' :: 'x' :: (replaceLast? 'P' 'p' rest).getD rest
      else if c == 'o' || c == 'O' then '0' :: 'o' :: rest
      else if c == 'b' || c == 'B' then '0' :: 'b' :: rest
      else decimal ('0' :: c :: rest)
    | c :: d :: rest => decimal (c :: d :: rest)
    | cs => cs

end ApiCompiler.Go.Number

/-! ## Operators -/

namespace ApiCompiler.Go

/-- The operator of a binary expression. -/
def Expr.operator? (e : Expr) : Option String :=
  match e.form with
  | .binary _ operator _ _ => some operator
  | _ => none

/-- What the operators of a binary expression are: some of the fourth precedence, some of the
fifth, and the precedence of operators that need blanks, because they would be read as one with
the operator behind them. -/
structure Operators where
  hasSums : Bool
  hasProducts : Bool
  problem : Nat

namespace Operators

/-- The operators of two expressions. -/
def join (a b : Operators) : Operators :=
  ⟨a.hasSums || b.hasSums, a.hasProducts || b.hasProducts, max a.problem b.problem⟩

/-- No operators. -/
def empty : Operators := ⟨false, false, 0⟩

/-- An operator and the beginning of its right operand. -/
def ofRight (operator : String) (right : Expr) : Operators :=
  match right.form with
  | .star _ => ⟨false, false, if operator == "/" then 5 else 0⟩
  | .unary sign _ =>
    let both := operator ++ sign
    ⟨false, false, if ["/*", "&&", "&^"].contains both then 5
      else if ["++", "--"].contains both then 4 else 0⟩
  | _ => empty

mutual

/-- The operators of an expression. -/
def ofExpr : Expr → Operators
  | ⟨_, _, form⟩ => ofForm form

/-- The operators of a form. An operand that is going to stand in parentheses does not count. -/
def ofForm : Form → Operators
  | .binary left operator _ right =>
    let n := precedence operator
    let own : Operators := ⟨n == 4, n == 5, 0⟩
    let ofLeft := match left.operator? with
      | some other => if precedence other < n then empty else ofExpr left
      | none => empty
    let ofRight := match right.operator? with
      | some other => if precedence other ≤ n then empty else ofExpr right
      | none => ofRight operator right
    own.join (ofLeft.join ofRight)
  | _ => empty

end

/-- The operators of a precedence below this one get blanks. -/
def cutoff (o : Operators) (depth : Nat) : Nat :=
  if 0 < o.problem then o.problem + 1
  else if o.hasSums && o.hasProducts then if depth == 1 then 5 else 4
  else if depth == 1 then 6 else 4

end Operators

namespace Layout

open Draw

/-- A level of depth less, for what stands in parentheses. -/
def reduced (depth : Nat) : Nat := max (depth - 1) 1

/-- A binary expression. -/
def binary (l : Layout) (e left : Expr) (operator : String) (place : Nat) (right : Expr)
    (below depth : Nat) : Draw Unit := do
  let depth := max depth 1
  let n := precedence operator
  if n < below then
    mark "("
    l.expr e lowest (reduced depth)
    mark ")"
  else
    let hasBlanks := n < (Operators.ofExpr e).cutoff depth
    let isChain := left.operator?.any fun other => precedence other == n
    l.expr left n (if isChain then depth else depth + 1)
    if hasBlanks then blank
    let leftLine ← currentLine
    let rightLine ← lineOf right.start
    markAt place operator
    let weight ← if leftLine == rightLine then pure 0 else breakTo rightLine 1 .indent true
    if hasBlanks && weight == 0 then blank
    l.expr right (n + 1) (depth + 1)
    if weight != 0 then unindent

/-- A selector. Gives whether the selected name stands on the next line; then a method stays
indented for its arguments. -/
def selector (l : Layout) (operand : Expr) (member : Name) (depth : Nat) (isMethod : Bool) :
    Draw Bool := do
  l.expr operand highest depth
  mark "."
  let breaks := (← currentLine) < (← lineOf member.start)
  if breaks then
    indent
    space .newline
  name member
  if breaks && !isMethod then unindent
  return breaks

/-- What is called. Gives whether the arguments are indented. -/
def callee (l : Layout) (e : Expr) (depth : Nat) : Draw Bool := do
  match e.form with
  | .selector operand member => l.selector operand member depth true
  | _ =>
    l.expr e highest depth
    return false

/-- A type that stands in parentheses if it is called. -/
def needsParens (e : Expr) : Bool :=
  match e.form with
  | .functionType _ => true
  | .channel _ .receive _ => true
  | _ => false

/-- A call. -/
def call (l : Layout) (function : Expr) (opening : Nat) (arguments : List Expr)
    (dots : Option Nat) (closing depth : Nat) : Draw Unit := do
  let depth := if 1 < arguments.length then depth + 1 else depth
  let hasParens := needsParens function
  if hasParens then mark "("
  let isIndented ← l.callee function depth
  if hasParens then mark ")"
  markAt opening "("
  match dots with
  | some offset =>
    l.exprList .plain (some opening) arguments depth (some offset)
    markAt offset "..."
    if (← lineOf offset) < (← lineOf closing) then
      mark ","
      formfeed
  | none => l.exprList .enclosed (some opening) arguments depth (some closing)
  markAt closing ")"
  if isIndented then unindent

/-- A composite value. No blank and no line break is put behind a comment in front of the closing
brace, unless the value is empty. -/
def composite (l : Layout) (type : Option Expr) (opening : Nat) (elements : List Expr)
    (closing depth : Nat) : Draw Unit := do
  type.forM fun t => l.expr t highest depth
  modify fun p => { p with nesting := p.nesting + 1 }
  markAt opening "\x7b"
  l.exprList .enclosed (some opening) elements 1 (some closing)
  indent
  unindent
  toggleBreaks
  if !elements.isEmpty then toggleBlanks
  markAt closing "\x7d"
  toggleBreaks
  if !elements.isEmpty then toggleBlanks
  modify fun p => { p with nesting := p.nesting - 1 }

/-- The bounds of a slice. Blanks stand around the colons if there are several bounds and one of
them is a binary expression. -/
def bounds (l : Layout) (list : List (Option Expr)) (depth : Nat) : Draw Unit := do
  let given := list.filterMap id
  let hasBlanks := depth ≤ 1 && 1 < given.length && given.any Expr.isBinary
  list.zipIdx.forM fun (bound, index) => do
    if index != 0 then
      if hasBlanks && (list[index - 1]?.join).isSome then blank
      mark ":"
      if hasBlanks && bound.isSome then blank
    bound.forM fun e => l.expr e lowest (depth + 1)

/-- A channel type. -/
def channel (l : Layout) (arrow : Nat) (direction : Direction) (element : Expr) : Draw Unit := do
  match direction with
  | .both => keyword "chan"
  | .receive =>
    mark "<-"
    keyword "chan"
  | .send =>
    keyword "chan"
    markAt arrow "<-"
  blank
  l.whole element

/-- A literal. -/
def literal (k : TokenKind) (text : String) : Draw Unit := do
  let isNumber := k == .int || k == .float || k == .imaginary
  token k (if isNumber && (← get).isNormalizing then Number.usual text else text)

/-- An expression in parentheses; one pair of them is enough. -/
def paren (l : Layout) (inner : Expr) (closing depth : Nat) : Draw Unit := do
  if inner.isParen then l.expr inner lowest depth
  else
    mark "("
    l.expr inner lowest (reduced depth)
    markAt closing ")"

/-- A function as a value. -/
def functionLiteral (l : Layout) (start : Nat) (type : Signature) (b : Block) : Draw Unit := do
  moveTo type.start
  keyword "func"
  let column := (← get).outColumn - 4
  l.signature type
  l.body (← distanceFrom? start column) .blank b

/-- An expression below an operator of a precedence, at a depth. -/
def exprStep (l : Layout) (e : Expr) (below depth : Nat) : Draw Unit := do
  moveTo e.start
  match e.form with
  | .name text => token .name text
  | .literal k text => literal k text
  | .function type b => l.functionLiteral type.start type b
  | .composite type opening elements closing => l.composite type opening elements closing depth
  | .paren inner closing => l.paren inner closing depth
  | .selector operand member =>
    let _ ← l.selector operand member depth false
  | .index operand opening indices closing =>
    l.expr operand highest 1
    markAt opening "["
    match indices with
    | [i] => l.expr i lowest (depth + 1)
    | _ => l.exprList .enclosed (some opening) indices (depth + 1) (some closing)
    markAt closing "]"
  | .slice operand opening list closing =>
    l.expr operand highest 1
    markAt opening "["
    l.bounds list depth
    markAt closing "]"
  | .assertion operand opening type closing =>
    l.expr operand highest depth
    mark "."
    markAt opening "("
    match type with
    | some t => l.whole t
    | none => keyword "type"
    markAt closing ")"
  | .call function opening arguments dots closing =>
    l.call function opening arguments dots closing depth
  | .star operand =>
    if unary < below then mark "("
    mark "*"
    l.whole operand
    if unary < below then mark ")"
  | .unary operator operand =>
    if unary < below then
      mark "("
      l.whole e
      mark ")"
    else
      mark operator
      l.expr operand unary depth
  | .binary left operator place right => l.binary e left operator place right below depth
  | .pair key colon value => l.pair .blank key colon value
  | .array length element =>
    mark "["
    length.forM l.whole
    mark "]"
    l.whole element
  | .dots element =>
    mark "..."
    element.forM l.whole
  | .struct fields =>
    keyword "struct"
    l.fieldList true fields
  | .functionType type =>
    keyword "func"
    l.signature type
  | .interface members =>
    keyword "interface"
    l.fieldList false members
  | .map key value =>
    keyword "map"
    mark "["
    l.whole key
    mark "]"
    l.whole value
  | .channel arrow direction element => l.channel arrow direction element

end Layout

end ApiCompiler.Go
