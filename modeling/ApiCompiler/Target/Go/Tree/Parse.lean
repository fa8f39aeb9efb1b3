import ApiCompiler.Target.Go.Tree

/-!
# Steps of parsing

A step reads tokens and gives a part of the tree; a malformed text gives nothing. The tokens are
kept together with their number, which bounds every repetition, and with the nesting of the
expression: in the header of a statement it is negative, and a brace begins the body there.
-/

namespace ApiCompiler.Go

/-- The tokens that are left, their number, and the nesting of the expression. -/
structure Tokens where
  rest : List Token
  count : Nat
  nesting : Int

/-- A step of parsing. -/
abbrev Parse (α : Type) := StateT Tokens Option α

namespace Parse

variable {α : Type}

/-- A malformed text. -/
def malformed : Parse α := fun _ => none

/-- The next token, which is left in place. -/
def peek : Parse Token := fun s => s.rest.head?.map fun t => (t, s)

/-- The kind of the next token. -/
def kind : Parse TokenKind := return (← peek).kind

/-- Drops the next token. -/
def skip : Parse Unit := modify fun s => { s with rest := s.rest.tail, count := s.count - 1 }

/-- Takes the next token. -/
def next : Parse Token := do
  let t ← peek
  skip
  return t

/-- The next token is of a kind. -/
def isAt (k : TokenKind) : Parse Bool := return (← kind) == k

/-- The next token is a mark. -/
def isAtMark (m : String) : Parse Bool := isAt (.mark m)

/-- Takes the next token, which has to be of a kind. -/
def expect (k : TokenKind) : Parse Token := do
  let t ← next
  if t.kind == k then return t else malformed

/-- Takes a mark and gives its offset. -/
def mark (m : String) : Parse Nat := return (← expect (.mark m)).start

/-- Takes a keyword and gives its offset. -/
def keyword (k : String) : Parse Nat := return (← expect (.keyword k)).start

/-- Takes a token if it is of a kind, and gives its offset. -/
def mark? (m : String) : Parse (Option Nat) := do
  let t ← peek
  if t.kind == .mark m then
    skip
    return some t.start
  else return none

/-- Takes a name. -/
def name : Parse Name := do
  let t ← expect .name
  return ⟨t.start, t.text⟩

/-- Takes a literal as an expression. -/
def literal : Parse Expr := do
  let t ← next
  if t.kind.isLiteral then return ⟨t.start, t.stop, .literal t.kind t.text⟩ else malformed

/-- Takes the end of a statement, which may be missing before a closing mark, and gives the
remark on the statement. -/
def endStatement : Parse (Option Comments) := do
  let t ← peek
  match t.kind with
  | .mark ")" | .mark "\x7d" => return none
  | .semicolon true =>
    skip
    return (← peek).remark
  | .semicolon false =>
    skip
    return t.remark
  | _ => malformed

/-- Takes a comma behind an item of a list, if the list does not end there. -/
def comma (closing : String) : Parse Unit := do
  match ← kind with
  | .mark m =>
    if m == "," then skip
    else if m == closing then return ()
    else malformed
  | _ => malformed

/-- Repeats a step until it gives nothing; the results come in order. -/
def repeated (step : Parse (Option α)) : Nat → List α → Parse (List α)
  | 0, _ => malformed
  | fuel + 1, found => do
    match ← step with
    | none => return found.reverse
    | some a => repeated step fuel (a :: found)

/-- Repeats a step until it gives nothing. Every step but the last takes a token. -/
def many (step : Parse (Option α)) : Parse (List α) := do repeated step ((← get).count + 1) []

/-- Repeats a step while the next token satisfies a condition. -/
def manyWhile (condition : TokenKind → Bool) (step : Parse α) : Parse (List α) :=
  many do if condition (← kind) then return some (← step) else return none

/-- Items with commas between them, up to a closing mark, which is left in place. -/
def listUpTo (closing : String) (item : Parse α) : Parse (List α) :=
  manyWhile (· != .mark closing) do
    let a ← item
    comma closing
    return a

/-- One or more items with commas between them. -/
def items (item : Parse α) : Parse (List α) := do
  let first ← item
  let rest ← manyWhile (· == .mark ",") do
    skip
    item
  return first :: rest

/-- A step inside brackets. -/
def nested (step : Parse α) : Parse α := do
  modify fun s => { s with nesting := s.nesting + 1 }
  let a ← step
  modify fun s => { s with nesting := s.nesting - 1 }
  return a

/-- A step inside the header of a statement. -/
def inHeader (step : Parse α) : Parse α := do
  let nesting := (← get).nesting
  modify fun s => { s with nesting := -1 }
  let a ← step
  modify fun s => { s with nesting }
  return a

end Parse

/-- The steps that call each other. -/
structure Grammar where
  type? : Parse (Option Expr)
  unary : Parse Expr
  expression : Parse Expr
  statement : Parse Stmt

end ApiCompiler.Go
