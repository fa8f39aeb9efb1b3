import ApiCompiler.Target.Go.Tree.Expressions

/-!
# Parsing declarations

Imports, constants, variables, types and functions. Behind the name of a type, a bracket begins
either an array type or a list of type parameters; which one it is shows only behind the
expression that follows the bracket.
-/

namespace ApiCompiler.Go.Grammar

open Parse

/-- An import. -/
def importSpec (docs : Option Comments) : Parse Spec := do
  let ownName ← match ← kind with
    | .name => some <$> name
    | .mark "." => do
      let t ← next
      pure (some ⟨t.start, t.text⟩)
    | _ => pure none
  let t ← expect .string
  let remark ← endStatement
  let literal : Expr := ⟨t.start, t.stop, .literal .string t.text⟩
  return ⟨docs, remark, (ownName.map (·.start)).getD t.start, t.stop,
    .imported ownName literal none⟩

/-- Names with commas between them. -/
def names : Parse (List Name) := items name

/-- Expressions with commas between them. -/
def expressions (g : Grammar) : Parse (List Expr) := items g.expression

/-- The values of a declaration, if it has any. -/
def values (g : Grammar) : Parse (List Expr) := do
  match ← mark? "=" with
  | some _ => g.expressions
  | none => return []

/-- The offset behind a declaration of values. -/
def valueStop (names : List Name) (type : Option Expr) (values : List Expr) : Nat :=
  match values.getLast?, type with
  | some e, _ => e.stop
  | none, some t => t.stop
  | none, none => (names.getLast?.map (·.stop)).getD 0

/-- Constants or variables. Only constants may have neither a type nor a value. -/
def valueSpec (g : Grammar) (isConstant : Bool) (docs : Option Comments) : Parse Spec := do
  let names ← names
  let type ← match ← kind with
    | .mark "=" => pure none
    | k =>
      if isConstant then
        if k.isSemicolon || k == .mark ")" || k == .finish then pure none else g.type?
      else some <$> g.type
  let values ← g.values
  let remark ← endStatement
  return ⟨docs, remark, (names.head?.map (·.start)).getD 0, valueStop names type values,
    .value names type values⟩

mutual

/-- An expression as a name and the type behind it, if it can be read so. The type has to be
one beyond doubt, or the reading is forced. -/
def nameAndType? (isForced : Bool) : Expr → Option (Name × Option Expr)
  | ⟨start, stop, form⟩ => nameAndTypeOf? isForced start stop form

/-- A form as a name and the type behind it, if it can be read so. -/
def nameAndTypeOf? (isForced : Bool) (start stop : Nat) : Form → Option (Name × Option Expr)
  | .name text => some (⟨start, text⟩, none)
  | .binary left operator place right =>
    if operator == "*" then
      match left.name? with
      | some n =>
        if isForced || right.isTypeElement then some (n, some ⟨place, stop, .star right⟩) else none
      | none => none
    else if operator == "|" then
      match nameAndType? (isForced || right.isTypeElement) left with
      | some (n, some type) => some (n, some ⟨type.start, stop, .binary type "|" place right⟩)
      | _ => none
    else none
  | .call callee opening [argument] none closing =>
    match callee.name? with
    | some n =>
      if isForced || argument.isTypeElement then
        some (n, some ⟨opening, stop, .paren argument closing⟩)
      else none
    | none => none
  | _ => none

end

/-- A type behind its name, and whether it is another name for an existing type. -/
def definedType (g : Grammar) : Parse (Bool × Expr) := do
  let equals ← mark? "="
  return (equals.isSome, ← g.type)

/-- A generic type behind the first of its type parameters. -/
def genericType (g : Grammar) (opening : Nat) (first : Name) (type : Option Expr) :
    Parse (FieldList × Bool × Expr) := do
  let fields ← g.parameterList first type "]" false
  let closing ← mark "]"
  let (isAlias, type) ← g.definedType
  return (⟨opening, fields, closing⟩, isAlias, type)

/-- What follows the name of a type and a bracket. -/
def bracketedType (g : Grammar) (opening : Nat) : Parse (Option FieldList × Bool × Expr) := do
  let array := fun length => do return (none, false, ← g.arrayFrom opening length)
  if !(← isAt .name) then array none
  else
    let first ← name
    let x ← if ← isAtMark "[" then pure first.toExpr
      else nested (do g.binary (← g.primary first.toExpr))
    let isForced ← isAtMark ","
    let isClosed ← isAtMark "]"
    match nameAndType? isForced x with
    | some (n, type) =>
      if type.isSome || !isClosed then
        let (fields, isAlias, type) ← g.genericType opening n type
        return (some fields, isAlias, type)
      else array (some x)
    | none => array (some x)

/-- A type. -/
def typeSpec (g : Grammar) (docs : Option Comments) : Parse Spec := do
  let n ← name
  let (parameters, isAlias, type) ← match ← mark? "[" with
    | some opening => g.bracketedType opening
    | none => do
      let (isAlias, type) ← g.definedType
      pure (none, isAlias, type)
  let remark ← endStatement
  return ⟨docs, remark, n.start, type.stop, .type n parameters isAlias type⟩

/-- An item of a declaration with a keyword. -/
def spec (g : Grammar) (keyword : String) (docs : Option Comments) : Parse Spec :=
  if keyword == "import" then importSpec docs
  else if keyword == "type" then g.typeSpec docs
  else g.valueSpec (keyword == "const") docs

/-- A declaration with a keyword. -/
def group (g : Grammar) (word : String) : Parse Group := do
  let docs := (← peek).lead
  let start ← keyword word
  match ← mark? "(" with
  | some opening =>
    let specs ← manyWhile (· != .mark ")") do g.spec word (← peek).lead
    let closing ← mark ")"
    let _ ← endStatement
    return ⟨docs, word, start, closing + 1, opening, closing, specs⟩
  | none =>
    let s ← g.spec word none
    return ⟨docs, word, start, s.stop, none, none, [s]⟩

/-- A function or a method. -/
def function (g : Grammar) : Parse Function := do
  let docs := (← peek).lead
  let start ← keyword "func"
  let receiver ← if ← isAtMark "(" then some <$> g.parameters true else pure none
  let n ← name
  let typeParameters ← if ← isAtMark "[" then some <$> g.typeParameters else pure none
  let type ← g.signature start typeParameters
  match ← kind with
  | .mark "\x7b" =>
    let body ← g.block
    let _ ← endStatement
    return ⟨docs, receiver, n, type, body⟩
  | _ =>
    let _ ← endStatement
    if ← isAtMark "\x7b" then malformed else return ⟨docs, receiver, n, type, none⟩

end ApiCompiler.Go.Grammar
