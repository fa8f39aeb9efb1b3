import ApiCompiler.Target.Go.Tree.Types

/-!
# Parsing expressions

Operands with what may follow them, unary operators, and binary operators by precedence.
-/

namespace ApiCompiler.Go.Grammar

open Parse

/-- Statements up to the end of a block or of a clause. -/
def statements (g : Grammar) : Parse (List Stmt) :=
  manyWhile (fun k => !(k == .keyword "case" || k == .keyword "default" || k == .mark "\x7d" ||
    k == .finish)) g.statement

/-- A block. -/
def block (g : Grammar) : Parse Block := do
  let opening ← mark "\x7b"
  let body ← g.statements
  let closing ← mark "\x7d"
  return ⟨opening, body, closing⟩

/-- A function type, or a function with its body. -/
def functionOrType (g : Grammar) : Parse Expr := do
  let s ← g.functionType
  if ← isAtMark "\x7b" then
    let body ← nested g.block
    return ⟨s.start, body.closing + 1, .function s body⟩
  else return ⟨s.start, s.stop, .functionType s⟩

/-- An operand. -/
def operand (g : Grammar) : Parse Expr := do
  let t ← peek
  match t.kind with
  | .name => return (← name).toExpr
  | .int | .float | .imaginary | .char | .string => literal
  | .mark "(" =>
    skip
    let inner ← nested g.expression
    let closing ← mark ")"
    return ⟨t.start, closing + 1, .paren inner closing⟩
  | .keyword "func" => g.functionOrType
  | _ => g.type

/-- A member of an operand, or an assertion of its type. -/
def memberOrAssertion (g : Grammar) (x : Expr) : Parse Expr := do
  let _ ← mark "."
  if ← isAt .name then
    let member ← name
    return ⟨x.start, member.stop, .selector x member⟩
  let opening ← mark "("
  let type ← if ← isAt (.keyword "type") then do
      skip
      pure none
    else some <$> g.type
  let closing ← mark ")"
  return ⟨x.start, closing + 1, .assertion x opening type closing⟩

/-- A bound of a slice, if there is one. -/
def bound (g : Grammar) : Parse (Option Expr) := do
  match ← kind with
  | .mark ":" | .mark "]" => return none
  | _ => return some (← g.expression)

/-- The bounds of a slice behind its lower bound. One of three bounds is not left out, the
lower one apart. -/
def upperBounds (g : Grammar) : Parse (List (Option Expr)) := do
  let _ ← mark ":"
  let high ← g.bound
  match ← mark? ":" with
  | none => return [high]
  | some _ =>
    let most ← g.bound
    if high.isSome && most.isSome then return [high, most] else malformed

/-- An index, a slice, or type arguments behind an operand. -/
def indexOrSlice (g : Grammar) (x : Expr) : Parse Expr := do
  let opening ← mark "["
  let low ← if ← isAtMark ":" then pure none else some <$> nested g.expression
  match low, ← kind with
  | _, .mark ":" =>
    let bounds ← nested g.upperBounds
    let closing ← mark "]"
    return ⟨x.start, closing + 1, .slice x opening (low :: bounds) closing⟩
  | some first, .mark "," =>
    let rest ← nested (manyWhile (· == .mark ",") do
      skip
      if ← isAtMark "]" then return none else return some (← g.type))
    let closing ← mark "]"
    return indexed x opening (first :: rest.filterMap id) closing
  | some first, _ =>
    let closing ← mark "]"
    return indexed x opening [first] closing
  | none, _ => malformed

/-- The arguments of a call, and where dots stand behind the last one. -/
def arguments (g : Grammar) : Nat → List Expr → Parse (List Expr × Option Nat)
  | 0, _ => malformed
  | fuel + 1, found => do
    if ← isAtMark ")" then return (found.reverse, none)
    let found := (← g.expression) :: found
    let dots ← mark? "..."
    comma ")"
    match dots with
    | some place => return (found.reverse, some place)
    | none => g.arguments fuel found

/-- A call. -/
def call (g : Grammar) (x : Expr) : Parse Expr := do
  let opening ← mark "("
  let (arguments, dots) ← nested (do g.arguments ((← get).count + 1) [])
  let closing ← mark ")"
  return ⟨x.start, closing + 1, .call x opening arguments dots closing⟩

/-- An expression of a composite value, or the elements of a composite value without its
type. The step that reads the elements is passed in. -/
def elementPart (g : Grammar) (elements : Parse Expr) : Parse Expr := do
  if ← isAtMark "\x7b" then elements else g.expression

/-- An element of a composite value, which may have a key. -/
def element (g : Grammar) (elements : Parse Expr) : Parse Expr := do
  let x ← g.elementPart elements
  match ← mark? ":" with
  | some colon =>
    let value ← g.elementPart elements
    return ⟨x.start, value.stop, .pair x colon value⟩
  | none => return x

/-- A composite value behind its type. -/
def composite (g : Grammar) : Nat → Option Expr → Parse Expr
  | 0, _ => malformed
  | fuel + 1, type => do
    let opening ← mark "\x7b"
    let elements ← nested (listUpTo "\x7d" (g.element (g.composite fuel none)))
    let closing ← mark "\x7d"
    return ⟨(type.map (·.start)).getD opening, closing + 1,
      .composite type opening elements closing⟩

/-- What a brace behind an operand means: the elements of a value, nothing that belongs to the
operand, or a mistake. -/
inductive BraceRole where
  | elements
  | separate
  | mistake

/-- What a brace behind an operand means. In a header it begins the body, unless the operand
can only be a type. -/
def braceRole (nesting : Int) (form : Form) : BraceRole :=
  match form with
  | .name _ | .selector .. | .index .. => if nesting < 0 then .separate else .elements
  | .array .. | .struct _ | .map .. => .elements
  | _ => .separate

/-- What a brace behind an operand means. The type of a composite value has no parentheses. -/
def braceRoleOf (nesting : Int) : Nat → Expr → BraceRole
  | 0, _ => .separate
  | fuel + 1, x =>
    match x.form with
    | .paren inner _ =>
      match braceRoleOf nesting fuel inner with
      | .separate => .separate
      | _ => .mistake
    | form => braceRole nesting form

/-- What may follow an operand. -/
def suffixes (g : Grammar) : Nat → Expr → Parse Expr
  | 0, _ => malformed
  | fuel + 1, x => do
    match ← kind with
    | .mark "." => g.suffixes fuel (← g.memberOrAssertion x)
    | .mark "[" => g.suffixes fuel (← g.indexOrSlice x)
    | .mark "(" => g.suffixes fuel (← g.call x)
    | .mark "\x7b" =>
      let s ← get
      match braceRoleOf s.nesting (x.stop + 1) x with
      | .elements => g.suffixes fuel (← g.composite (s.count + 1) x)
      | .separate => return x
      | .mistake => malformed
    | _ => return x

/-- An operand with what follows it. The operand may have been read before. -/
def primary (g : Grammar) (first : Option Expr) : Parse Expr := do
  let x ← first.elim g.operand pure
  g.suffixes ((← get).count + 1) x

mutual

/-- An arrow in front of a channel type belongs to it; its own arrow then belongs to the type of
its elements. -/
def received? (arrow : Nat) : Expr → Option Expr
  | ⟨_, stop, form⟩ => (receivedForm? arrow form).map fun form => ⟨arrow, stop, form⟩

/-- The form of a channel type with an arrow in front. -/
def receivedForm? (arrow : Nat) : Form → Option Form
  | .channel _ .both element => some (.channel arrow .receive element)
  | .channel own .send element =>
    (received? own element).map fun element => .channel arrow .receive element
  | _ => none

end

/-- A channel type. -/
def isChannel (e : Expr) : Bool :=
  match e.form with
  | .channel .. => true
  | _ => false

/-- An operand with its unary operators. -/
def unaryStep (g : Grammar) : Parse Expr := do
  let t ← peek
  match t.kind with
  | .mark m =>
    if ["+", "-", "!", "^", "&", "~"].contains m then
      skip
      let x ← g.unary
      return ⟨t.start, x.stop, .unary m x⟩
    else if m == "*" then
      skip
      let x ← g.unary
      return ⟨t.start, x.stop, .star x⟩
    else if m == "<-" then
      skip
      let x ← g.unary
      if isChannel x then
        match received? t.start x with
        | some type => return type
        | none => malformed
      else return ⟨t.start, x.stop, .unary m x⟩
    else g.primary none
  | _ => g.primary none

/-- Binary operators that bind at least as tightly as `least` behind an operand. The step
`tighter` reads the operators behind the right operand. -/
def binaryLoop (g : Grammar) (tighter : Nat → Expr → Parse Expr) (least : Nat) :
    Nat → Expr → Parse Expr
  | 0, _ => malformed
  | fuel + 1, x => do
    let t ← peek
    match t.kind with
    | .mark m =>
      let level := precedence m
      if level < least then return x
      else
        skip
        let y ← tighter (level + 1) (← g.unary)
        g.binaryLoop tighter least fuel ⟨x.start, y.stop, .binary x m t.start y⟩
    | _ => return x

/-- Binary operators that bind at least as tightly as `least`, of a number of levels. -/
def binaryFrom (g : Grammar) : Nat → Nat → Expr → Parse Expr
  | 0, _, x => pure x
  | levels + 1, least, x => do
    g.binaryLoop (g.binaryFrom levels) least ((← get).count + 1) x

/-- The binary operators behind an operand. -/
def binary (g : Grammar) (x : Expr) : Parse Expr := g.binaryFrom 6 1 x

/-- An expression. -/
def expressionStep (g : Grammar) : Parse Expr := do g.binary (← g.unaryStep)

end ApiCompiler.Go.Grammar
