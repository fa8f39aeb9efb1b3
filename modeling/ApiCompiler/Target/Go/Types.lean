import ApiCompiler.Convert.Emit
import ApiCompiler.Target.Go.Name

/-!
# Types in Go

Every type has two forms: the type expression of a declaration, and the expression that
rebuilds the resolved type at run time. This file also says which texts are type expressions.
-/

namespace ApiCompiler.Go

open Text

/-- The templates of type expressions. -/
def typeTemplates : Templates := ⟨[
  ("any", "any"), ("string", "string"), ("integer", "int64"), ("double", "float64"),
  ("boolean", "bool"), ("datetime", "time.Time"), ("decimal", "*big.Float"), ("list", "[]?"),
  ("set", "map[?]struct\x7b\x7d"), ("map", "map[?]?"), ("optional", "*?")]⟩

/-- The templates of expressions that rebuild types. -/
def refTemplates : Templates := ⟨[
  ("any", "describe.Builtin(\"any\")"), ("string", "describe.Builtin(\"string\")"),
  ("integer", "describe.Builtin(\"integer\")"), ("double", "describe.Builtin(\"double\")"),
  ("boolean", "describe.Builtin(\"boolean\")"), ("datetime", "describe.Builtin(\"datetime\")"),
  ("decimal", "describe.Builtin(\"decimal\")"), ("list", "describe.Builtin(\"list\", ?)"),
  ("set", "describe.Builtin(\"set\", ?)"), ("map", "describe.Builtin(\"map\", ?, ?)"),
  ("optional", "describe.Builtin(\"optional\", ?)")]⟩

/-- Type expressions in the package of a module. Types of other modules are qualified. -/
def typeBackend (current : String) : Backend String where
  templates := typeTemplates
  render _ template params := Templates.substitute template params
  reference loc :=
    if loc.moduleName == current then loc.typeName
    else packageName loc.moduleName ++ "." ++ loc.typeName

/-- Expressions that rebuild types. -/
def refBackend : Backend String where
  templates := refTemplates
  render _ template params := Templates.substitute template params
  reference loc := "describe.Ref(" ++ quote loc.moduleName ++ ", " ++ quote loc.typeName ++ ")"

/-- The package that a template needs. -/
def templatePackage? (template : String) : Option String :=
  let start := template.toList.dropWhile fun c => c == '*' || c == '[' || c == ']'
  match cutAt '.' start with
  | some (qualifier, _) =>
    if qualifier == "time".toList then some "time"
    else if qualifier == "big".toList then some "math/big"
    else none
  | none => none

/-- A builtin type of a package needs the package. -/
def typeNeeds (im : Imports) (v : Visit String) : Imports :=
  match v.locator with
  | some _ => im
  | none =>
    match (typeTemplates.get? v.datatype.name).bind templatePackage? with
    | some package => im.addModule package
    | none => im

/-- A project seen from one of its modules, below an import path. -/
structure Scope where
  project : Project
  name : String
  module : Module
  importBase : String

namespace Scope

/-- The source from which a module is imported. -/
def source (s : Scope) (module : String) : String := importPath s.importBase module

/-- A type reference as a type expression. -/
def type (s : Scope) (reference : String) : Emit String :=
  Emit.convert ⟨s.project, s.name, typeBackend s.name, s.source⟩ typeNeeds reference

/-- A type reference as an expression that rebuilds the type. Nothing is imported for it. -/
def ref (s : Scope) (reference : String) : Emit String :=
  Emit.ofExcept (Converter.convert ⟨s.project, s.name, refBackend, id⟩ reference).result

end Scope

end ApiCompiler.Go
