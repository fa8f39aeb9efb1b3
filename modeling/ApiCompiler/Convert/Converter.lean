import ApiCompiler.Convert.Imports
import ApiCompiler.Convert.Templates
import ApiCompiler.Datatype
import ApiCompiler.Project

/-!
# Converters

A converter turns type references into the terms of a target. Builtin types are expanded by
templates; every other name has to be a custom type of the project. Every type is shown to a
visitor, parameters before the type they belong to, also if the conversion fails later.

`Converter.resolve` is the conversion with any visitor. `Converter.convertDatatype` lists the
types it met and changes none; what has to be imported follows from that list.
-/

namespace ApiCompiler

open Text

/-- How a target renders types. -/
structure Backend (T : Type) where
  templates : Templates
  /-- A builtin type from its name, its template and its converted parameters. -/
  render : String → String → List T → T
  /-- A reference to a custom type. -/
  reference : TypeLocator → T

/-- A type that a conversion met: its rendering, its reference, and where it is declared if it
is a custom type. -/
structure Visit (T : Type) where
  rendered : T
  datatype : Datatype
  locator : Option TypeLocator

/-- What is done with every type that a conversion meets: the rendering may be replaced, and a
state of the target may change. -/
abbrev Visitor (S T : Type) := Visit T → StateM S T

/-- A target's view of a project from one generated file. -/
structure Converter (T : Type) where
  project : Project
  current : String
  backend : Backend T
  /-- The source from which a module is imported. -/
  source : String → String

/-- What a conversion met, and its result. -/
structure Conversion (T : Type) where
  visits : List (Visit T)
  result : Except Error T

namespace Converter

variable {S T : Type}

/-- A converter for the file of a module. Its target needs a template for every builtin type. -/
def new (project : Project) (current : String) (backend : Backend T) (source : String → String) :
    Except Error (Converter T) := do
  backend.templates.check
  return ⟨project, current, backend, source⟩

/-- Converts a custom type. -/
def resolveCustom (c : Converter T) (visit : Visitor S T) (name : String) :
    ExceptT Error (StateM S) T :=
  match c.project.findType name with
  | none => throw (.unresolved name)
  | some loc => visit ⟨c.backend.reference loc, .mk name none, some loc⟩

/-- Completes a builtin type whose parameters were converted. -/
def resolveBuiltin (c : Converter T) (visit : Visitor S T) (dt : Datatype) (template : String)
    (params : List T) : ExceptT Error (StateM S) T :=
  visit ⟨c.backend.render dt.name template params, dt, none⟩

mutual

/-- Converts a type reference and shows every type to a visitor. A failure keeps the state that
the visitor had reached. -/
def resolve (c : Converter T) (visit : Visitor S T) : Datatype → ExceptT Error (StateM S) T
  | .mk name none =>
    match c.backend.templates.get? name with
    | some template =>
      if Templates.arityOf template != 0 then throw (.arity name (Templates.arityOf template) 0)
      else c.resolveBuiltin visit (.mk name none) template []
    | none => c.resolveCustom visit name
  | .mk name (some params) =>
    match c.backend.templates.get? name with
    | some template =>
      if Templates.arityOf template != params.length then
        throw (.arity name (Templates.arityOf template) params.length)
      else do
        let converted ← c.resolveAll visit params
        c.resolveBuiltin visit (.mk name (some params)) template converted
    | none => throw (.parametrised name)

/-- Converts the parameters of a type up to the first that fails. -/
def resolveAll (c : Converter T) (visit : Visitor S T) :
    List Datatype → ExceptT Error (StateM S) (List T)
  | [] => return []
  | d :: rest => do
    let value ← c.resolve visit d
    let more ← c.resolveAll visit rest
    return value :: more

end

/-- The visitor that lists the types and leaves every rendering as it is. -/
def listing : Visitor (List (Visit T)) T := fun v seen => (v.rendered, seen ++ [v])

/-- Converts a type reference and lists the types it met. -/
def convertDatatype (c : Converter T) (dt : Datatype) : Conversion T :=
  let (result, visits) := c.resolve listing dt []
  ⟨visits, result⟩

/-- Reads and converts a type reference. A failure to convert is labelled with the reference. -/
def convert (c : Converter T) (reference : String) : Conversion T :=
  match Datatype.parse reference with
  | .error e => ⟨[], .error e⟩
  | .ok dt =>
    let done := c.convertDatatype dt
    ⟨done.visits, labelled ("converting " ++ quote reference) done.result⟩

/-- The empty imports of the converter's file. -/
def noImports (c : Converter T) : Imports := .new (c.source c.current)

/-- Records the custom types that a conversion met. -/
def recordImports (c : Converter T) (im : Imports) (visits : List (Visit T)) : Imports :=
  visits.foldl (fun im v =>
    match v.locator with
    | some loc => im.add (c.source loc.moduleName) loc.typeName
    | none => im) im

end Converter

end ApiCompiler
