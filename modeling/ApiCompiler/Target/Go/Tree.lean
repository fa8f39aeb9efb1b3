import ApiCompiler.Target.Go.Lines
import ApiCompiler.Target.Go.Token

/-!
# The tree of a Go source file

Expressions and types share one tree, because many texts can be either. Every node knows the
offsets of its beginning and of its end; a mark whose place decides about the layout has its own
offset.
-/

namespace ApiCompiler.Go

/-- A name in a text. -/
structure Name where
  start : Nat
  text : String
deriving Repr, Inhabited

/-- The offset behind a name. -/
def Name.stop (n : Name) : Nat := n.start + n.text.utf8ByteSize

/-- The direction of a channel. -/
inductive Direction where
  | both
  | send
  | receive
deriving DecidableEq, Repr

mutual

/-- An expression or a type. -/
structure Expr where
  start : Nat
  stop : Nat
  form : Form

/-- The forms of expressions and types. -/
inductive Form where
  | name (text : String)
  | literal (kind : TokenKind) (text : String)
  | function (type : Signature) (body : Block)
  | composite (type : Option Expr) (opening : Nat) (elements : List Expr) (closing : Nat)
  | paren (inner : Expr) (closing : Nat)
  | selector (operand : Expr) (member : Name)
  | index (operand : Expr) (opening : Nat) (indices : List Expr) (closing : Nat)
  | slice (operand : Expr) (opening : Nat) (bounds : List (Option Expr)) (closing : Nat)
  | assertion (operand : Expr) (opening : Nat) (type : Option Expr) (closing : Nat)
  | call (callee : Expr) (opening : Nat) (arguments : List Expr) (dots : Option Nat)
      (closing : Nat)
  | star (operand : Expr)
  | unary (operator : String) (operand : Expr)
  | binary (left : Expr) (operator : String) (place : Nat) (right : Expr)
  | pair (key : Expr) (colon : Nat) (value : Expr)
  | array (length : Option Expr) (element : Expr)
  | dots (element : Option Expr)
  | struct (fields : FieldList)
  | functionType (type : Signature)
  | interface (members : FieldList)
  | map (key value : Expr)
  | channel (arrow : Nat) (direction : Direction) (element : Expr)

/-- Parameters and results. -/
structure Signature where
  start : Nat
  stop : Nat
  typeParameters : Option FieldList
  parameters : FieldList
  results : Option FieldList

/-- Fields, parameters, or members of an interface, between two marks. -/
structure FieldList where
  opening : Option Nat
  fields : List Field
  closing : Option Nat

/-- A field, a group of parameters, or a member of an interface. -/
structure Field where
  docs : Option Comments
  names : List Name
  type : Expr
  tag : Option Expr
  remark : Option Comments

/-- Statements in braces. -/
structure Block where
  opening : Nat
  statements : List Stmt
  closing : Nat

/-- A statement. -/
structure Stmt where
  start : Nat
  stop : Nat
  form : StmtForm

/-- The forms of statements. A clause of a `switch` without values, and one of a `select`
without an event, is the default clause. -/
inductive StmtForm where
  | empty
  | declaration (group : Group)
  | labeled (label : Name) (colon : Nat) (inner : Stmt)
  | expression (value : Expr)
  | send (channel : Expr) (arrow : Nat) (value : Expr)
  | step (operand : Expr) (place : Nat) (operator : String)
  | assign (left : List Expr) (place : Nat) (operator : String) (right : List Expr)
  | launch (keyword : String) (call : Expr)
  | answer (results : List Expr)
  | branch (keyword : String) (label : Option Name)
  | block (body : Block)
  | choice (setUp : Option Stmt) (condition : Expr) (body : Block) (otherwise : Option Stmt)
  | valueClause (values : List Expr) (colon : Nat) (body : List Stmt)
  | eventClause (event : Option Stmt) (colon : Nat) (body : List Stmt)
  | switch (setUp : Option Stmt) (tag : Option Expr) (body : Block)
  | typeSwitch (setUp : Option Stmt) (guard : Stmt) (body : Block)
  | select (body : Block)
  | loop (setUp : Option Stmt) (condition : Option Expr) (after : Option Stmt) (body : Block)
  | range (key value : Option Expr) (place : Nat) (operator : String) (operand : Expr)
      (body : Block)

/-- A declaration of imports, constants, variables or types, or a group of them in
parentheses. -/
structure Group where
  docs : Option Comments
  keyword : String
  start : Nat
  stop : Nat
  opening : Option Nat
  closing : Option Nat
  specs : List Spec

/-- One item of a declaration. -/
structure Spec where
  docs : Option Comments
  remark : Option Comments
  start : Nat
  stop : Nat
  form : SpecForm

/-- The forms of items. An import that was moved has an ending, at which the text behind it goes
on. -/
inductive SpecForm where
  | imported (name : Option Name) (path : Expr) (ending : Option Nat)
  | value (names : List Name) (type : Option Expr) (values : List Expr)
  | type (name : Name) (parameters : Option FieldList) (isAlias : Bool) (type : Expr)

end

/-- A function or a method. -/
structure Function where
  docs : Option Comments
  receiver : Option FieldList
  name : Name
  type : Signature
  body : Option Block

/-- A declaration at the top level. -/
inductive TopLevel where
  | group (group : Group)
  | function (function : Function)

/-- A source file: its declarations, all its comments, and its lines. -/
structure File where
  docs : Option Comments
  start : Nat
  package : Name
  declarations : List TopLevel
  comments : List Comments
  lines : LineTable

namespace Name

/-- A name as an expression. -/
def toExpr (n : Name) : Expr := ⟨n.start, n.stop, .name n.text⟩

end Name

namespace FieldList

/-- The number of fields; a field has at least one name or stands for itself. -/
def count (l : FieldList) : Nat :=
  l.fields.foldl (fun n f => n + max 1 f.names.length) 0

end FieldList

namespace Field

/-- The offset of a field. -/
def start (f : Field) : Nat := (f.names.head?.map (·.start)).getD f.type.start

/-- The offset behind a field. -/
def stop (f : Field) : Nat := (f.tag.map (·.stop)).getD f.type.stop

end Field

namespace Expr

/-- The name that an expression consists of. -/
def name? (e : Expr) : Option Name :=
  match e.form with
  | .name text => some ⟨e.start, text⟩
  | _ => none

/-- An expression in parentheses. -/
def isParen (e : Expr) : Bool :=
  match e.form with
  | .paren .. => true
  | _ => false

/-- The type of a parameter that takes any number of arguments. -/
def isDots (e : Expr) : Bool :=
  match e.form with
  | .dots _ => true
  | _ => false

/-- A binary expression. -/
def isBinary (e : Expr) : Bool :=
  match e.form with
  | .binary .. => true
  | _ => false

end Expr

mutual

/-- An expression that can only be an element of a type. -/
def Expr.isTypeElement : Expr → Bool
  | ⟨_, _, form⟩ => form.isTypeElement

/-- A form that can only be an element of a type. -/
def Form.isTypeElement : Form → Bool
  | .array .. | .struct _ | .functionType _ | .interface _ | .map .. | .channel .. => true
  | .binary left _ _ right => left.isTypeElement || right.isTypeElement
  | .unary operator _ => operator == "~"
  | .paren inner _ => inner.isTypeElement
  | _ => false

end

namespace TopLevel

/-- The offset of a declaration. -/
def start : TopLevel → Nat
  | group g => g.start
  | function f => f.type.start

/-- The offset behind a declaration. -/
def stop : TopLevel → Nat
  | group g => g.stop
  | function f => (f.body.map (·.closing + 1)).getD f.type.stop

/-- The keyword of a declaration. -/
def keyword : TopLevel → String
  | group g => g.keyword
  | function _ => "func"

/-- The documentation of a declaration. -/
def docs : TopLevel → Option Comments
  | group g => g.docs
  | function f => f.docs

end TopLevel

end ApiCompiler.Go
