import ApiCompiler.Convert.Emit
import ApiCompiler.Target.TypeScript.Name

/-!
# Types in TypeScript

Every type has two forms: the type expression that a declaration uses, and the expression that
describes the type at run time.
-/

namespace ApiCompiler.TypeScript

open Text

/-- The source of the symbols of the runtime. -/
def runtimeModule : String := "@cytonic/runtime"

/-- The source from which a module is imported. -/
def importSource (module : String) : String := "./" ++ module

/-- The mark of templates whose name is a symbol of the runtime. -/
def runtimeMark : String := "Cytonic."

/-- The templates of type expressions. -/
def typeTemplates : Templates := ⟨[
  ("any", "any"), ("string", "string"), ("integer", "Cytonic.Integer"),
  ("double", "Cytonic.Double"), ("boolean", "boolean"), ("datetime", "Date"),
  ("decimal", "Cytonic.Decimal"), ("list", "?[]"), ("set", "Set<?>"), ("map", "Map<?, ?>"),
  ("optional", "? | undefined")]⟩

/-- The templates of expressions that describe types. -/
def descriptorTemplates : Templates := ⟨[
  ("any", "new AnyType()"), ("string", "new StringType()"), ("integer", "new IntegerType()"),
  ("double", "new DoubleType()"), ("boolean", "new BooleanType()"),
  ("datetime", "new DatetimeType()"), ("decimal", "new DecimalType()"), ("list", "new ListType(?)"),
  ("set", "new SetType(?)"), ("map", "new MapType(?, ?)"), ("optional", "new OptionalType(?)")]⟩

/-- An alternative in parentheses, so that it can be an element type. -/
def asElement (type : String) : String :=
  if occursIn " | ".toList type.toList then "(" ++ type ++ ")" else type

/-- Type expressions. -/
def typeBackend : Backend String where
  templates := typeTemplates
  render name template params :=
    let params := if name == "list" then params.map asElement else params
    Templates.substitute ((dropStart? runtimeMark template).getD template) params
  reference loc := loc.typeName

/-- Expressions that describe types. -/
def descriptorBackend : Backend String where
  templates := descriptorTemplates
  render _ template params := Templates.substitute template params
  reference loc := descriptorName loc.typeName

/-- A template of the runtime needs its symbol. -/
def typeNeeds (im : Imports) (v : Visit String) : Imports :=
  match v.locator with
  | some _ => im
  | none =>
    match (typeTemplates.get? v.datatype.name).bind (dropStart? runtimeMark) with
    | some symbol => im.add runtimeModule symbol
    | none => im

/-- The class that a template constructs. -/
def constructedClass? (template : String) : Option String :=
  (cut '(' ((dropStart? "new " template).getD template)).map (·.1)

/-- A description needs its class, or the constant of the custom type. -/
def descriptorNeeds (source : String → String) (im : Imports) (v : Visit String) : Imports :=
  match v.locator with
  | some loc => im.add (source loc.moduleName) v.rendered
  | none =>
    match (descriptorTemplates.get? v.datatype.name).bind constructedClass? with
    | some symbol => im.add runtimeModule symbol
    | none => im

/-- A project seen from one of its modules. -/
structure Scope where
  project : Project
  name : String
  module : Module

namespace Scope

/-- A type reference as a type expression. -/
def type (s : Scope) (reference : String) : Emit String :=
  Emit.convert ⟨s.project, s.name, typeBackend, importSource⟩ typeNeeds reference

/-- A type reference as an expression that describes the type. -/
def descriptor (s : Scope) (reference : String) : Emit String :=
  Emit.convert ⟨s.project, s.name, descriptorBackend, importSource⟩
    (descriptorNeeds importSource) reference

end Scope

/-- A symbol of the runtime. -/
def runtime (symbol : String) : Emit String := do
  Emit.need runtimeModule symbol
  return symbol

end ApiCompiler.TypeScript
