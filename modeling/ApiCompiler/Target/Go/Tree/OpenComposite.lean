import ApiCompiler.Target.Go.Tree

/-!
# Open composite values

A composite value that begins with the name of a type must not stand in the header of a statement,
because its brace would be taken for that of the body. Parentheses around it, or around anything
that contains it, prevent that. The whole tree of an expression is searched, the bodies of
functions too.
-/

namespace ApiCompiler.Go

mutual

/-- The name of a type, as far as the form shows. -/
def Expr.isTypeName : Expr → Bool
  | ⟨_, _, form⟩ => form.isTypeName

/-- A form of the name of a type. -/
def Form.isTypeName : Form → Bool
  | .name _ => true
  | .selector operand _ => operand.isTypeName
  | _ => false

end

mutual

/-- A composite value without parentheses around it. -/
def Expr.hasOpenComposite : Expr → Bool
  | ⟨_, _, form⟩ => form.hasOpenComposite

/-- A form that holds such a composite value. What stands in parentheses, or in another composite
value, is not searched. -/
def Form.hasOpenComposite : Form → Bool
  | .name _ | .literal .. | .paren .. => false
  | .composite type .. => namedType type
  | .function type body => type.hasOpenComposite || body.hasOpenComposite
  | .selector operand _ | .star operand | .unary _ operand => operand.hasOpenComposite
  | .index operand _ indices _ => operand.hasOpenComposite || openInExprs indices
  | .slice operand _ bounds _ => operand.hasOpenComposite || openInBounds bounds
  | .assertion operand _ type _ => operand.hasOpenComposite || openInExpr type
  | .call callee _ arguments _ _ => callee.hasOpenComposite || openInExprs arguments
  | .binary left _ _ right => left.hasOpenComposite || right.hasOpenComposite
  | .pair key _ value => key.hasOpenComposite || value.hasOpenComposite
  | .array length element => openInExpr length || element.hasOpenComposite
  | .dots element => openInExpr element
  | .struct fields => fields.hasOpenComposite
  | .functionType type => type.hasOpenComposite
  | .interface members => members.hasOpenComposite
  | .map key value => key.hasOpenComposite || value.hasOpenComposite
  | .channel _ _ element => element.hasOpenComposite

/-- Parameters or results hold such a composite value. -/
def Signature.hasOpenComposite : Signature → Bool
  | ⟨_, _, typeParameters, parameters, results⟩ =>
    openInFieldList typeParameters || parameters.hasOpenComposite || openInFieldList results

/-- A list of fields holds such a composite value. -/
def FieldList.hasOpenComposite : FieldList → Bool
  | ⟨_, fields, _⟩ => openInFields fields

/-- The type of a field holds such a composite value. -/
def Field.hasOpenComposite : Field → Bool
  | ⟨_, _, type, _, _⟩ => type.hasOpenComposite

/-- A block holds such a composite value. -/
def Block.hasOpenComposite : Block → Bool
  | ⟨_, statements, _⟩ => openInStmts statements

/-- A statement holds such a composite value. -/
def Stmt.hasOpenComposite : Stmt → Bool
  | ⟨_, _, form⟩ => form.hasOpenComposite

/-- A form of a statement holds such a composite value. -/
def StmtForm.hasOpenComposite : StmtForm → Bool
  | .empty | .branch .. => false
  | .declaration group => group.hasOpenComposite
  | .labeled _ _ inner => inner.hasOpenComposite
  | .expression value => value.hasOpenComposite
  | .send channel _ value => channel.hasOpenComposite || value.hasOpenComposite
  | .step operand _ _ => operand.hasOpenComposite
  | .assign left _ _ right => openInExprs left || openInExprs right
  | .launch _ call => call.hasOpenComposite
  | .answer results => openInExprs results
  | .block body | .select body => body.hasOpenComposite
  | .choice setUp condition body otherwise =>
    openInStmt setUp || condition.hasOpenComposite || body.hasOpenComposite ||
      openInStmt otherwise
  | .valueClause values _ body => openInExprs values || openInStmts body
  | .eventClause event _ body => openInStmt event || openInStmts body
  | .switch setUp tag body => openInStmt setUp || openInExpr tag || body.hasOpenComposite
  | .typeSwitch setUp guard body =>
    openInStmt setUp || guard.hasOpenComposite || body.hasOpenComposite
  | .loop setUp condition after body =>
    openInStmt setUp || openInExpr condition || openInStmt after || body.hasOpenComposite
  | .range key value _ _ operand body =>
    openInExpr key || openInExpr value || operand.hasOpenComposite || body.hasOpenComposite

/-- A declaration holds such a composite value. -/
def Group.hasOpenComposite : Group → Bool
  | ⟨_, _, _, _, _, _, specs⟩ => openInSpecs specs

/-- An item of a declaration holds such a composite value. -/
def Spec.hasOpenComposite : Spec → Bool
  | ⟨_, _, _, _, form⟩ => form.hasOpenComposite

/-- A form of an item holds such a composite value. -/
def SpecForm.hasOpenComposite : SpecForm → Bool
  | .imported .. => false
  | .value _ type values => openInExpr type || openInExprs values
  | .type _ parameters _ type => openInFieldList parameters || type.hasOpenComposite

/-- One of several expressions holds such a composite value. -/
def openInExprs : List Expr → Bool
  | [] => false
  | e :: rest => e.hasOpenComposite || openInExprs rest

/-- One of several bounds holds such a composite value. -/
def openInBounds : List (Option Expr) → Bool
  | [] => false
  | bound :: rest => openInExpr bound || openInBounds rest

/-- An expression that may be missing holds such a composite value. -/
def openInExpr : Option Expr → Bool
  | none => false
  | some e => e.hasOpenComposite

/-- The type of a composite value is a name. -/
def namedType : Option Expr → Bool
  | none => false
  | some e => e.isTypeName

/-- Fields that may be missing hold such a composite value. -/
def openInFieldList : Option FieldList → Bool
  | none => false
  | some l => l.hasOpenComposite

/-- One of several fields holds such a composite value. -/
def openInFields : List Field → Bool
  | [] => false
  | f :: rest => f.hasOpenComposite || openInFields rest

/-- A statement that may be missing holds such a composite value. -/
def openInStmt : Option Stmt → Bool
  | none => false
  | some s => s.hasOpenComposite

/-- One of several statements holds such a composite value. -/
def openInStmts : List Stmt → Bool
  | [] => false
  | s :: rest => s.hasOpenComposite || openInStmts rest

/-- One of several items holds such a composite value. -/
def openInSpecs : List Spec → Bool
  | [] => false
  | s :: rest => s.hasOpenComposite || openInSpecs rest

end

/-- An expression in a header without the parentheses around it that are not needed. -/
def Expr.bare : Expr → Expr
  | ⟨start, stop, .paren inner closing⟩ =>
    if inner.hasOpenComposite then ⟨start, stop, .paren inner closing⟩ else inner.bare
  | e => e

end ApiCompiler.Go
