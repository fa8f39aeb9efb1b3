import ApiCompiler.Error

/-!
# Templates of builtin types

A target gives every builtin type a template. Each placeholder in it stands for one type
parameter, so the template also says how many parameters the type takes.
-/

namespace ApiCompiler

open Text

/-- The templates of builtin types, by name. -/
structure Templates where
  entries : List (String × String)
deriving Repr

namespace Templates

/-- The character that stands for a parameter. -/
def placeholder : Char := '?'

/-- The builtin types, for each of which a target needs a template. -/
def builtins : List String :=
  ["any", "string", "integer", "double", "boolean", "datetime", "decimal", "list", "set", "map",
    "optional"]

/-- The template of a type. -/
def get? (t : Templates) (name : String) : Option String :=
  (t.entries.find? (·.1 == name)).map (·.2)

/-- The number of parameters that a template takes. -/
def arityOf (template : String) : Nat := template.toList.count placeholder

/-- The number of parameters that a type takes; zero without a template. -/
def arity (t : Templates) (name : String) : Nat := (t.get? name).elim 0 arityOf

/-- The builtin types without a template. -/
def missing (t : Templates) : List String := builtins.filter fun name => (t.get? name).isNone

/-- Every builtin type has a template. -/
def check (t : Templates) : Except Error Unit :=
  if t.missing.isEmpty then .ok () else .error (.config (.missingTemplates (sort t.missing)))

/-- Replaces placeholders by parameters in order, as long as there are any. -/
def fill : List Char → List String → List Char
  | [], _ => []
  | c :: rest, [] => c :: rest
  | c :: rest, p :: params =>
    if c = placeholder then p.toList ++ fill rest params else c :: fill rest (p :: params)

/-- A template with its parameters in place. -/
def substitute (template : String) (params : List String) : String :=
  String.ofList (fill template.toList params)

end Templates

end ApiCompiler
