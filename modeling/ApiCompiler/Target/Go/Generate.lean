import ApiCompiler.Describe.Module
import ApiCompiler.Target.Go.Dependency
import ApiCompiler.Target.Go.Source
import ApiCompiler.Target.Options
import ApiCompiler.Target.Output

/-!
# The Go target

For every module one package: structs, enumerations, unions, error types, the interface of the
service, and a function that describes the service.
-/

namespace ApiCompiler.Go

open Text

/-- The options of the Go target. -/
structure Settings where
  importPath : String
deriving Repr

namespace Settings

/-- The keys of the options. -/
def keys : List (Options.Key Settings) :=
  [.text "import_path" fun v s => { s with importPath := v }]

/-- Reads the options of the target. -/
def decode (options : ApiCompiler.Options) : Except Error Settings :=
  Options.decode "go" keys ⟨""⟩ (options.forTarget "go")

/-- The import path is set. -/
def validate (s : Settings) : Except Error Unit :=
  if s.importPath == "" then .error (.config .importPathRequired) else .ok ()

end Settings

/-- The packages that generated code depends on. -/
def runtimeImport : String := "github.com/broady/cytonic"
def describeImport : String := "github.com/broady/cytonic/cytonicgen/describe"

/-- A tag that names a field in documents. -/
def jsonTag (key : String) : String := "`json:" ++ quote key ++ "`"

/-- A type whose empty values are left out of documents. -/
def isOmittable (type : String) : Bool :=
  ["*", "[]", "map["].any fun start => hasStart start type

/-- The fields of a struct or an error. -/
def fieldsOf (s : Scope) (fields : Option (OrderedMap ApiCompiler.Field)) :
    Emit (List StructField) :=
  (OrderedMap.entriesOf fields).mapM fun (key, f) => do
    let type ← (s.type f.type).within ("field " ++ key)
    let tag := if isOmittable type then key ++ ",omitempty" else key
    return ⟨docLines 1 f.docs, exported key, type, jsonTag tag⟩

/-- An enumeration: a named text and its constants. -/
def enumeration (name : String) (t : TypeDecl) : List Declaration :=
  let constants := (t.values.getD []).map fun v =>
    (⟨docLines 1 v.docs, enumConstant name v.name, name, quote v.name⟩ : Constant)
  [.named (docLines 0 t.docs) name "string", .constants constants]

/-- A union: a struct of pointers of which one is set. -/
def union (s : Scope) (name : String) (t : TypeDecl) : Emit (List Declaration) := do
  let fields ← (OrderedMap.entriesOf t.union).mapM fun (variant, reference) => do
    let type ← (s.type reference).within ("variant " ++ variant)
    let type := if hasStart "*" type then type else "*" ++ type
    return (⟨[], exported variant, type, jsonTag (variant ++ ",omitempty")⟩ : StructField)
  let remark := "Exactly one of the following is set."
  return [.struct (docLines 0 t.docs) name none (some remark) fields]

/-- The type that a struct extends. -/
def baseType (s : Scope) (t : TypeDecl) : Emit (Option String) :=
  match t.extends_ with
  | some base => (s.type base).within "extends" >>= fun type => pure (some type)
  | none => pure none

/-- A struct. -/
def struct (s : Scope) (name : String) (t : TypeDecl) : Emit (List Declaration) := do
  let fields ← fieldsOf s t.fields
  let embedded := (← baseType s t).filter (· != "")
  return [.struct (docLines 0 t.docs) name embedded none fields]

/-- The declarations of a type. -/
def typeDeclarations (s : Scope) (name : String) (t : TypeDecl) : Emit (List Declaration) := do
  Emit.ofExcept (t.validate none)
  match t.shape with
  | .enum => return enumeration name t
  | .union => union s name t
  | .struct => struct s name t

/-- The constant of a category of errors. -/
def codeConstant? : ErrorCode → Option String
  | .notFound => some "CodeNotFound"
  | .unauthorized => some "CodeUnauthorized"
  | .conflict => some "CodeConflict"
  | .illegalArgument => some "CodeIllegalArgument"
  | .internal => some "CodeInternal"
  | .other _ => none

/-- The methods of error types, whose names a field cannot have. -/
def errorMethods : List String := ["Error", "ServiceError"]

/-- Calls in a chain, one to a line; every line but the last ends with a point. -/
def chained : List String → List BodyLine
  | [] => []
  | [call] => [⟨1, call⟩]
  | call :: rest => ⟨1, call ++ "."⟩ :: chained rest

/-- A call with more calls chained to it. -/
def callChain (start : String) (calls : List String) : List BodyLine :=
  if calls.isEmpty then [⟨0, start⟩] else ⟨0, start ++ "."⟩ :: chained calls

/-- The declarations of an error: its struct and its two methods. -/
def errorDeclarations (s : Scope) (name : String) (e : ErrorDecl) : Emit (List Declaration) := do
  let fields ← fieldsOf s e.fields
  let fields := fields.map fun f =>
    if errorMethods.contains f.name then { f with name := f.name ++ "_" } else f
  match codeConstant? e.effectiveCode with
  | none => Emit.fail (.config (.unknownErrorCode e.effectiveCode.text))
  | some code =>
    Emit.needModule runtimeImport
    let type := name ++ "Error"
    let qualified := quote (s.module.name ++ ":" ++ name)
    let keys := (OrderedMap.entriesOf e.fields).map (·.1)
    let calls := (keys.zip fields).map fun (key, f) =>
      "WithParameter(" ++ quote key ++ ", e." ++ f.name ++ ")"
    let start := "return cytonic.NewServiceError(cytonic." ++ code ++ ", " ++ qualified ++ ")"
    return [.struct (docLines 0 e.docs) type none none fields,
      .function [] ("(e *" ++ type ++ ") Error() string") [⟨0, "return " ++ qualified⟩],
      .function ["ServiceError returns the wire representation of e."]
        ("(e *" ++ type ++ ") ServiceError() *cytonic.ServiceError") (callChain start calls)]

/-- The name of the interface of the service. -/
def serviceName (m : Module) : String := exported m.name ++ "Service"

/-- The parameter of an endpoint for credentials, if it needs them. -/
def credentialParams (s : Scope) (e : Endpoint) : Emit (List (String × String)) :=
  if (s.module.endpointAuth e).isSome then do
    Emit.needModule runtimeImport
    return [("auth", "cytonic.Credentials")]
  else return []

/-- The type of what an endpoint returns, if it returns anything. -/
def resultType (s : Scope) (name : String) (e : Endpoint) : Emit (Option String) :=
  if e.result == "" then pure none
  else (s.type e.result).within (returnLabel name) >>= fun type => pure (some type)

/-- The method of an endpoint. -/
def endpointMethod (s : Scope) (name : String) (e : Endpoint) : Emit Method := do
  let credentials ← credentialParams s e
  let args ← e.argumentList.mapM fun (argument, a) => do
    return (unexported argument, ← (s.type a.type).within (argumentLabel name argument))
  let result ← resultType s name e
  return ⟨docLines 1 e.docs, e.docs != "", exported name,
    [("ctx", "context.Context")] ++ credentials ++ args, result⟩

/-- The first method stands directly below the head of its interface. -/
def joinFirst : List Method → List Method
  | [] => []
  | m :: rest => { m with isApart := false } :: rest

/-- The interface of the service. -/
def serviceInterface (s : Scope) : Emit Declaration := do
  Emit.needModule "context"
  let methods ← s.module.endpointList.mapM fun (name, e) => endpointMethod s name e
  let name := serviceName s.module
  return .interface [name ++ " is implemented by " ++ s.module.name ++ " servers."] name
    (joinFirst methods)

/-- The expression of a declared authentication. -/
def authExpression (a : Auth) : String :=
  match a.method with
  | .oauth2Bearer => "cytonic.OAuth2Bearer(" ++ quote a.headerName ++ ")"
  | .basic => "cytonic.BasicAuth()"
  | _ => "cytonic.NoAuth()"

/-- The constant of a kind of arguments. -/
def kindConstant : ParamKind → String
  | .auth => "cytonic.KindAuth"
  | .body => "cytonic.KindBody"
  | .cookie => "cytonic.KindCookie"
  | .header => "cytonic.KindHeader"
  | .path => "cytonic.KindPath"
  | .query => "cytonic.KindQuery"
  | .other _ => ""

/-- The call that describes an argument. -/
def argumentCall (s : Scope) (endpoint : String) (a : ResolvedArgument) : Emit String := do
  let ref ← (s.ref a.type).within (argumentLabel endpoint a.name)
  return "Arg(" ++ quote a.name ++ ", " ++ ref ++ ", " ++ kindConstant a.kind ++ ")"

/-- The call that describes what an endpoint returns, if it returns anything. -/
def resultCalls (s : Scope) (name : String) (e : Endpoint) : Emit (List String) :=
  if e.result == "" then pure []
  else do
    let ref ← (s.ref e.result).within (returnLabel name)
    return ["Returns(" ++ ref ++ ")"]

/-- The call that describes the credentials of an endpoint, if it needs them. -/
def credentialCalls (m : Module) (e : Endpoint) : List String :=
  if (m.endpointAuth e).isSome then ["Arg(\"auth\", describe.Credentials, cytonic.KindAuth)"]
  else []

/-- The calls that describe an endpoint. -/
def endpointCalls (s : Scope) (name : String) (e : Endpoint) : Emit (List BodyLine) := do
  let resolved ← Emit.ofExcept (labelled ("endpoint " ++ name) e.resolveArguments)
  let args ← resolved.mapM (argumentCall s name)
  let result ← resultCalls s name e
  let docs := if e.docs == "" then [] else ["Docs(" ++ quote e.docs ++ ")"]
  let auth := e.auth.toList.map fun a => "Auth(" ++ authExpression a ++ ")"
  return callChain ("b.Endpoint(" ++ quote name ++ ", " ++ quote e.route.render ++ ")")
    (docs ++ auth ++ credentialCalls s.module e ++ args ++ result)

/-- The calls that describe a service without its endpoints. -/
def serviceCalls (m : Module) : List String :=
  let docs := if m.docs == "" then [] else ["b.Docs(" ++ quote m.docs ++ ")"]
  let auth := m.auth.toList.map fun a => "b.Auth(" ++ authExpression a ++ ")"
  ["b := describe.NewServiceBuilder(" ++ quote m.name ++ ")"] ++ docs ++ auth

/-- The function that describes the service. -/
def serviceDescription (s : Scope) : Emit Declaration := do
  Emit.needModule runtimeImport
  Emit.needModule describeImport
  let endpoints ← s.module.endpointList.mapM fun (name, e) => endpointCalls s name e
  let service := serviceName s.module
  let name := service ++ "Description"
  return .function [name ++ " describes " ++ service ++ " for runtime frameworks."]
    (name ++ "() (*describe.ServiceDescription, error)")
    ((serviceCalls s.module).map (⟨0, ·⟩) ++ endpoints.flatten ++ [⟨0, "return b.Build()"⟩])

/-- The declarations of the service, if there is one. -/
def serviceDeclarations (s : Scope) : Emit (List Declaration) :=
  if (OrderedMap.entriesOf s.module.endpoints).isEmpty then pure []
  else do
    let interface ← serviceInterface s
    let description ← serviceDescription s
    return [interface, description]

/-- The declarations of a module: types, errors, and the service. -/
def moduleDeclarations (s : Scope) : Emit (List Declaration) := do
  let types ← s.module.typeList.mapM fun (name, t) =>
    (typeDeclarations s name t).within ("type " ++ name)
  let errors ← s.module.errorList.mapM fun (name, e) =>
    (errorDeclarations s name e).within ("error " ++ name)
  let service ← serviceDeclarations s
  return types.flatten ++ errors.flatten ++ service

/-- The source file of a module of a project. -/
def sourceFile (project : Project) (name : String) (settings : Settings) :
    Except Error SourceFile := do
  let m ← project.getModule name
  let s : Scope := ⟨project, name, m, settings.importPath⟩
  let (declarations, im) ← (moduleDeclarations s).run (.new (s.source name))
  let package := packageName name
  let head := "Package " ++ package ++ " contains the bindings of the " ++ name ++ " module."
  let docs := if m.docs == "" then [] else "" :: docLines 0 m.docs
  SourceFile.checkComments m.documentation
    ⟨package, head :: docs, im.sortedModules ++ im.sources, declarations⟩

/-- The text of the Go file of a module of a project. -/
def renderModule (project : Project) (name : String) (settings : Settings) :
    Except Error String := do
  (← sourceFile project name settings).format

/-- The files of the Go target. -/
def generate (project : Project) (settings : Settings) : Plan :=
  match settings.validate, checkImportCycles project with
  | .error e, _ => .failed e
  | _, .error e => .failed e
  | .ok (), .ok () =>
    Plan.ofList (fun name => do
      let content ← labelled ("go: module " ++ name) (renderModule project name settings)
      let package := packageName name
      return ⟨package ++ "/" ++ package ++ ".go", content⟩) project.moduleNames

end ApiCompiler.Go
