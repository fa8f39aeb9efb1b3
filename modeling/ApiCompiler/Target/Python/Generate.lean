import ApiCompiler.Convert.Emit
import ApiCompiler.Target.Output
import ApiCompiler.Target.Python.Declaration
import ApiCompiler.Target.Python.Packaging

/-!
# The Python target

Dataclasses for types and errors, enumerations, annotated unions, and for every service two
abstract classes: one that blocks and one that is asynchronous.
-/

namespace ApiCompiler.Python

open Text

/-- The templates of builtin types. -/
def templates : Templates := ⟨[
  ("any", "typing.Any"), ("string", "str"), ("integer", "int"), ("double", "float"),
  ("boolean", "bool"), ("datetime", "datetime.datetime"), ("decimal", "decimal.Decimal"),
  ("list", "typing.List[?]"), ("set", "typing.Set[?]"), ("map", "typing.Dict[?, ?]"),
  ("optional", "typing.Optional[?]")]⟩

/-- Types as hints. -/
def backend : Backend String where
  templates := templates
  render _ template params := Templates.substitute template params
  reference loc := loc.typeName

/-- The module in front of the name in a template. -/
def templateModule? (template : String) : Option String :=
  let head := (cut '[' template).elim template (·.1)
  match cutLastAt '.' head.toList with
  | some (c :: rest, _) => some (String.ofList (c :: rest))
  | _ => none

/-- A qualified builtin needs its module. -/
def needsOf (im : Imports) (v : Visit String) : Imports :=
  match v.locator with
  | some _ => im
  | none =>
    match (templates.get? v.datatype.name).bind templateModule? with
    | some module => im.addModule module
    | none => im

/-- A type reference as a hint. -/
def hint (c : Converter String) (reference : String) : Emit String :=
  Emit.convert c needsOf reference

/-- The modules of the runtime. -/
def runtimeModule : String := "cytonic.runtime"
def descriptionModule : String := "cytonic.description"
def modelModule : String := "cytonic.model"

/-- The fields of a struct or an error. -/
def fieldsOf (c : Converter String) (fields : Option (OrderedMap ApiCompiler.Field)) :
    Emit (List Field) :=
  (OrderedMap.entriesOf fields).mapM fun (name, f) => do
    let h ← (hint c f.type).within ("field " ++ name)
    return ⟨name, h, f.default.elim "" literal, f.docs⟩

/-- The base class of the errors of a category. -/
def errorBase? : ErrorCode → Option String
  | .notFound => some "NotFoundError"
  | .unauthorized => some "UnauthorizedError"
  | .conflict => some "ConflictError"
  | .illegalArgument => some "IllegalArgumentError"
  | .internal => some "InternalError"
  | .other _ => none

/-- The class of an error. -/
def errorClass (c : Converter String) (name : String) (e : ErrorDecl) : Emit Class :=
  match errorBase? e.effectiveCode with
  | none => Emit.fail (.config (.unknownErrorCode e.effectiveCode.text))
  | some base => do
    let fields ← fieldsOf c e.fields
    Emit.needModule "dataclasses"
    Emit.need runtimeModule base
    let setUp : Method := ⟨"__post_init__", ["self"], "", "", [], ["super().__init__()"], false⟩
    return ⟨name ++ "Error", e.docs, ["@dataclasses.dataclass"], [base], fields, [setUp]⟩

/-- The bases of the class of a struct. -/
def baseHints (c : Converter String) (t : TypeDecl) : Emit (List String) :=
  match t.extends_ with
  | some base => do return [← (hint c base).within "extends"]
  | none => return []

/-- The declaration of a custom type. -/
def typeDeclaration (c : Converter String) (name : String) (t : TypeDecl) : Emit Declaration :=
  match t.shape with
  | .union => do
    let variants ← (OrderedMap.entriesOf t.union).mapM fun (variant, reference) => do
      return (variant, ← (hint c reference).within ("variant " ++ variant))
    Emit.needModule "typing"
    Emit.needModule "databind.core.annotations"
    return .ofUnion ⟨name, t.docs, variants⟩
  | .enum => do
    Emit.needModule "enum"
    let fields := (t.values.getD []).map fun v =>
      (⟨v.name, "", "enum.auto()", v.docs⟩ : Field)
    return .ofClass ⟨name, t.docs, [], ["enum.Enum"], fields, []⟩
  | .struct => do
    let fields ← fieldsOf c t.fields
    Emit.needModule "dataclasses"
    let bases ← baseHints c t
    return .ofClass ⟨name, t.docs, ["@dataclasses.dataclass"], bases, fields, []⟩

/-- The decorators of a declared authentication. -/
def authDecorators (auth : Option Auth) : Emit (List String) :=
  match auth with
  | none => return []
  | some a => do
    Emit.need descriptionModule "authentication"
    Emit.need modelModule a.className
    return ["@authentication(" ++ a.construction ++ ")"]

/-- An argument in a signature. An optional one need not be given. -/
def signatureArgument (c : Converter String) (endpoint name : String) (a : Argument) :
    Emit String :=
  if collides name then Emit.fail (.argument (.shadowsBuiltin name endpoint))
  else do
    let h ← (hint c a.type).within ("argument " ++ name)
    let optional := hasStart "optional[" (trim a.type)
    return name ++ ": " ++ h ++ (if optional then " = None" else "")

/-- The parameter of an endpoint for credentials, if it needs them. -/
def credentialParams (m : Module) (e : Endpoint) : Emit (List String) :=
  if (m.endpointAuth e).isSome then do
    Emit.need runtimeModule "Credentials"
    return ["auth: Credentials"]
  else return []

/-- The hint of what an endpoint returns. -/
def resultHint (c : Converter String) (e : Endpoint) : Emit String :=
  if e.result == "" then pure "None" else (hint c e.result).within "return"

/-- The method of an endpoint. -/
def endpointMethod (c : Converter String) (m : Module) (isAsync : Bool) (name : String)
    (e : Endpoint) : Emit Method := do
  Emit.need descriptionModule "endpoint"
  let auth ← authDecorators e.auth
  let decorators := ["@endpoint(\"" ++ e.route.render ++ "\")"] ++ auth ++ ["@abc.abstractmethod"]
  let credentials ← credentialParams m e
  let args ← e.argumentList.mapM fun (argument, a) => signatureArgument c name argument a
  let returns ← resultHint c e
  return ⟨name, ["self"] ++ credentials ++ args, returns, e.docs, decorators, ["pass"], isAsync⟩

/-- The abstract class of a service. -/
def serviceClass (c : Converter String) (m : Module) (isAsync : Bool) : Emit Class := do
  Emit.needModule "abc"
  Emit.need descriptionModule "service"
  let auth ← authDecorators m.auth
  let methods ← m.endpointList.mapM fun (name, e) =>
    (endpointMethod c m isAsync name e).within ("endpoint " ++ name)
  let suffix := if isAsync then "ServiceAsync" else "ServiceBlocking"
  return ⟨m.name ++ suffix, m.docs, ["@service(" ++ quote m.name ++ ")"] ++ auth, ["abc.ABC"], [],
    methods⟩

/-- The classes of the service, if there is one. -/
def serviceDeclarations (c : Converter String) (m : Module) : Emit (List Declaration) :=
  if (OrderedMap.entriesOf m.endpoints).isEmpty then pure []
  else [false, true].mapM fun isAsync => do
    return Declaration.ofClass (← serviceClass c m isAsync)

/-- The declarations of a module: errors, types, and the service. -/
def moduleDeclarations (c : Converter String) (m : Module) : Emit (List Declaration) := do
  let errors ← m.errorList.mapM fun (name, e) => do
    return Declaration.ofClass (← (errorClass c name e).within ("error " ++ name))
  let types ← m.typeList.mapM fun (name, t) => Emit.within ("type " ++ name) do
    Emit.ofExcept (t.validate none)
    typeDeclaration c name t
  let services ← serviceDeclarations c m
  return errors ++ types ++ services

/-- The import lines of a file. -/
def writeImports (im : Imports) (w : Writer) : Writer :=
  let w := if im.sortedModules.isEmpty then w
    else im.sortedModules.foldl (fun w m => w.line ("import " ++ m)) (w.blank 1)
  if im.groups.isEmpty then w
  else im.groups.foldl (fun w g =>
    w.line ("from " ++ g.source ++ " import " ++ joinWith ", " g.symbols)) (w.blank 1)

/-- The declarations of the module with a name. -/
def namedDeclarations (c : Converter String) (name : String) : Emit (List Declaration) :=
  match c.project.module? name with
  | some m => (moduleDeclarations c m).within ("module " ++ name)
  | none => Emit.fail (.unknownModule name)

/-- The declarations of the modules of a file. -/
def fileDeclarations (c : Converter String) (modules : List String) :
    Emit (List (List Declaration)) :=
  modules.mapM (namedDeclarations c)

/-- The documentation of a file: that of its module, if it holds only one. -/
def fileDocs (project : Project) : List String → String
  | [name] => (project.module? name).elim "" (·.docs)
  | _ => ""

/-- The text of a Python file. `source` gives the Python module that defines the types of a
module. -/
def renderFile (project : Project) (modules : List String) (indent : Nat)
    (source : String → String) : Except Error String := do
  let c ← Converter.new project (modules.headD "") backend source
  let (groups, im) ← (fileDeclarations c modules).run c.noImports
  let w := Writer.new (repeated indent " ")
  let w := w.line "# -*- coding: utf-8 -*-"
  let w := w.line "# Do not edit; this file was automatically generated by cytonic."
  let docs := fileDocs project modules
  let w := if docs == "" then w else writeDocstring (w.blank 1) docs
  let header := w.nextSection
  let w := groups.flatten.foldl Declaration.write w.addSection
  return (w.modifyAt (writeImports im) [header]).text

/-- The file that makes a package of the modules of a project. -/
def packageFile (project : Project) (s : Settings) : String :=
  (project.moduleNames.foldl (fun w name =>
    w.line ("from " ++ s.package ++ "." ++ name ++ " import *")) (Writer.new "")).text

/-- The files of the Python target. -/
def generate (project : Project) (settings : Settings) : Plan :=
  match settings.validate with
  | .error e => .failed e
  | .ok () =>
    let s := settings.withDefaults
    let modules := Plan.ofList (fun (f : File) => do
      let content ← labelled ("python: " ++ f.name)
        (renderFile project f.modules s.indent.toNat s.sourceOf)
      return ⟨f.path, content⟩) (layout project s)
    let package := if s.package == "" then Plan.empty
      else .single (s.sourceDirectory ++ modulePath s.package ++ "/__init__.py")
        (packageFile project s)
    let packaging := if s.installable then .single "pyproject.toml" (packagingFile s) else .empty
    let marker := if s.installable && s.package != "" then
      .single ("src/" ++ modulePath s.package ++ "/py.typed") "" else .empty
    ((modules.andThen package).andThen packaging).andThen marker

end ApiCompiler.Python
