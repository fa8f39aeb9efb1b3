import ApiCompiler.Convert.Converter
import ApiCompiler.Json

/-!
# Resolved types

A type reference with every name resolved: builtin types with their parameters, custom types
with their module, and the type of credentials. Descriptions that are put together by hand may
leave a type unspecified.
-/

namespace ApiCompiler

open Text

/-- A resolved type. -/
inductive TypeRef where
  | builtin (name : String) (params : List TypeRef)
  | custom (module name : String)
  | credentials
  | unspecified
deriving Inhabited, Repr, BEq

namespace TypeRef

/-- The name of credentials as a type. -/
def credentialsName : String := "Credentials"

/-- The name behind the module that declares it. -/
def qualified (module name : String) : String :=
  if module == "" then name else module ++ "." ++ name

mutual

/-- The type as definitions write it, with the modules of custom types. -/
def render : TypeRef → String
  | builtin name [] => name
  | builtin name (p :: params) => name ++ "[" ++ joinWith ", " (renderAll (p :: params)) ++ "]"
  | custom module name => qualified module name
  | credentials => credentialsName
  | unspecified => ""

/-- The texts of several types. -/
def renderAll : List TypeRef → List String
  | [] => []
  | r :: rest => r.render :: renderAll rest

end

/-- A type whose values may be missing. -/
def isOptional : TypeRef → Bool
  | builtin name _ => name == "optional"
  | _ => false

mutual

/-- The document of a type. -/
def toJson : TypeRef → Json
  | builtin name params =>
    .obj ([("kind", .str "builtin"), ("name", .str name)] ++
      Json.listEntry "params" (toJsonAll params))
  | custom module name =>
    .obj ([("kind", .str "reference"), ("name", .str name)] ++ Json.textEntry "module" module)
  | credentials => .obj [("kind", .str "credentials"), ("name", .str credentialsName)]
  | unspecified => .null

/-- The documents of several types. -/
def toJsonAll : List TypeRef → List Json
  | [] => []
  | r :: rest => r.toJson :: toJsonAll rest

end

/-- The templates that give every builtin type its number of parameters. -/
def templates : Templates := ⟨[
  ("any", "any"), ("string", "string"), ("integer", "integer"), ("double", "double"),
  ("boolean", "boolean"), ("datetime", "datetime"), ("decimal", "decimal"), ("list", "list[?]"),
  ("set", "set[?]"), ("map", "map[?, ?]"), ("optional", "optional[?]")]⟩

/-- Types stand for themselves. -/
def backend : Backend TypeRef where
  templates := templates
  render name _ params := builtin name params
  reference loc := custom loc.moduleName loc.typeName

/-- A converter to resolved types for the types that a module uses. -/
def converter (project : Project) (module : String) : Converter TypeRef :=
  ⟨project, module, backend, id⟩

end TypeRef

end ApiCompiler
