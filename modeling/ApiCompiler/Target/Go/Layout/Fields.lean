import ApiCompiler.Target.Go.Layout.Lists

/-!
# Parameters and fields

Parameters keep the line breaks of the source. The fields of a struct are columns of names,
types and tags; a struct or an interface with one small field may stay on its line.
-/

namespace ApiCompiler.Go

/-- An expression without the parentheses around it. -/
def Expr.withoutParens : Expr → Expr
  | ⟨_, _, .paren inner _⟩ => inner.withoutParens
  | e => e

/-- A name and a type behind it could be read as an expression: `P *T` as a product, and `P (T)`
as a call. -/
def Expr.combinesWithName : Expr → Bool
  | ⟨_, _, .star operand⟩ => !operand.isTypeElement
  | ⟨_, _, .paren inner _⟩ => !inner.isTypeElement
  | ⟨_, _, .binary left _ _ right⟩ => left.combinesWithName && !right.isTypeElement
  | _ => false

namespace Layout

open Draw

/-- The kinds of parameter lists. -/
inductive ListKind where
  | parameters
  | typeParameters
  /-- The type parameters of a type, which might be taken for the length of an array. -/
  | ofType
deriving DecidableEq

/-- The state between two parameters: the white space in front of a line break, and the line of
the parameter before. -/
structure ParameterState where
  before : Space
  line : Nat

/-- A parameter, or several of one type. -/
def parameter (l : Layout) (s : ParameterState) (item : Field × Nat) : Draw ParameterState := do
  let (f, index) := item
  let line ← lineOf f.start
  let breaks := 0 < s.line && s.line < line
  if index != 0 then
    if !breaks then moveTo f.start
    mark ","
  let weight ← if breaks then breakTo line 0 s.before true else pure 0
  let before := if weight == 0 then s.before else .nothing
  if weight == 0 && index != 0 then blank
  if !f.names.isEmpty then
    l.nameList (before != .indent) f.names
    blank
  l.whole f.type.withoutParens
  return ⟨before, ← lineOf f.stop⟩

/-- A list of one type parameter that needs a comma. -/
def needsComma (kind : ListKind) (list : FieldList) : Bool :=
  kind == .ofType && list.count == 1 &&
    list.fields.head?.any fun f => f.type.withoutParens.combinesWithName

/-- A list of parameters. -/
def parameters (l : Layout) (kind : ListKind) (list : FieldList) : Draw Unit := do
  let (opening, closing) := if kind == .parameters then ("(", ")") else ("[", "]")
  moveTo? list.opening
  mark opening
  if !list.fields.isEmpty then
    let s ← list.fields.zipIdx.foldlM l.parameter ⟨.indent, ← lineOf? list.opening⟩
    let last ← lineOf? list.closing
    if 0 < s.line && s.line < last then
      mark ","
      let _ ← breakTo last 0 .nothing true
    else if needsComma kind list then mark ","
    if s.before == .nothing then unindent
  moveTo? list.closing
  mark closing

/-- The parameters and the results of a function. A single result without a name stands without
parentheses. -/
def signature (l : Layout) (s : Signature) : Draw Unit := do
  s.typeParameters.forM (l.parameters .typeParameters)
  l.parameters .parameters s.parameters
  match s.results with
  | none => return ()
  | some results =>
    if results.count != 0 then
      blank
      match results.fields with
      | [f] =>
        if f.names.isEmpty then l.whole f.type.withoutParens else l.parameters .parameters results
      | _ => l.parameters .parameters results

/-- A method of an interface. -/
def method (l : Layout) (name : Name) (type : Expr) : Draw Unit := do
  l.whole name.toExpr
  match type.form with
  | .functionType s => l.signature s
  | _ => l.whole type

/-- The size up to which a field may stay on the line of its struct. -/
def smallField : Nat := 30

/-- A field that may stay on the line of its struct. -/
def isSmall (l : Layout) (f : Field) : Draw Bool := do
  if f.tag.isSome || f.remark.isSome then return false
  let separator := if f.names.isEmpty then 0 else 1
  return separator + limited smallField (← l.exprSize? f.type) ≤ smallField

/-- A field on the line of its struct or interface. -/
def rowField (l : Layout) (isStruct : Bool) (f : Field) : Draw Unit := do
  match isStruct, f.names with
  | false, name :: _ => l.method name f.type
  | _, names =>
    names.zipIdx.forM fun (name, index) => do
      if index != 0 then comma
      l.whole name.toExpr
    if !names.isEmpty then blank
    l.whole f.type

/-- A field of a struct: columns of names, types and tags. Without a tag a remark stands where it
would stand behind one. -/
def structField (l : Layout) (separator : Space) (f : Field) : Draw Unit := do
  if f.names.isEmpty then l.whole f.type
  else
    l.nameList true f.names
    space separator
    l.whole f.type
  match f.tag with
  | some tag =>
    if !f.names.isEmpty && separator == .softTab then space separator
    space separator
    l.whole tag
  | none =>
    if f.remark.isSome then
      (List.replicate (if f.names.isEmpty then 2 else 1) separator).forM space
  comment f.remark

/-- A member of an interface. -/
def interfaceField (l : Layout) (f : Field) : Draw Unit := do
  match f.names with
  | name :: _ => l.method name f.type
  | [] => l.whole f.type
  comment f.remark

/-- Fields on lines of their own. A field of several lines begins a new section. -/
def fieldRows (field : Field → Draw Unit) (fields : List Field) : Draw Unit := do
  let slot ← newSlot
  fields.zipIdx.forM fun (f, index) => do
    if index != 0 then
      let _ ← breakTo (← lineOf f.start) 1 .nothing (← hasLinesSince slot)
    comment f.docs
    awaitLine slot
    field f

/-- Fields in braces, on lines of their own. -/
def fieldBlock (l : Layout) (isStruct hasComments : Bool) (list : FieldList) : Draw Unit := do
  blank
  moveTo? list.opening
  mark "\x7b"
  indent
  if hasComments || !list.fields.isEmpty then formfeed
  let separator := if list.fields.length == 1 then .blank else .softTab
  fieldRows (if isStruct then l.structField separator else l.interfaceField) list.fields
  unindent
  formfeed
  moveTo? list.closing
  mark "\x7d"

/-- The fields of a struct, or the members of an interface. -/
def fieldList (l : Layout) (isStruct : Bool) (list : FieldList) : Draw Unit := do
  let hasComments ← hasCommentBefore list.closing
  let isRow := (← lineOf? list.opening) == (← lineOf? list.closing)
  match !hasComments && isRow, list.fields with
  | true, [] =>
    moveTo? list.opening
    mark "\x7b"
    moveTo? list.closing
    mark "\x7d"
  | true, [f] =>
    if ← l.isSmall f then
      moveTo? list.opening
      mark "\x7b"
      blank
      l.rowField isStruct f
      blank
      moveTo? list.closing
      mark "\x7d"
    else l.fieldBlock isStruct hasComments list
  | _, _ => l.fieldBlock isStruct hasComments list

end Layout

end ApiCompiler.Go
