import ApiCompiler.Describe.Draft

/-!
# Descriptions of modules

Everything that a module declares, with all references resolved against its project.
-/

namespace ApiCompiler

open Text

/-- A field of a struct or an error, or a variant of a union. -/
structure FieldDescription where
  name : String
  type : TypeRef
  docs : RawText
  default : Option Value
deriving Repr

/-- A custom type. -/
structure TypeDescription where
  name : String
  shape : TypeShape
  docs : RawText
  base : Option TypeRef
  fields : List FieldDescription
  values : List EnumValue
  variants : List FieldDescription
deriving Repr

/-- A declared error. -/
structure ErrorDescription where
  name : String
  code : ErrorCode
  fields : List FieldDescription
  docs : RawText
deriving Repr

/-- A module. A module without endpoints has no service. -/
structure ModuleDescription where
  module : String
  docs : RawText
  types : List TypeDescription
  errors : List ErrorDescription
  service : Option ServiceDescription
deriving Repr

/-- A module of a project by name. -/
def Project.getModule (p : Project) (name : String) : Except Error Module :=
  match p.module? name with
  | some m => .ok m
  | none => .error (.unknownModule name)

namespace ServiceDraft

/-- The arguments of an endpoint as descriptions. The name of credentials is reserved. -/
def describeArguments (c : Converter TypeRef) (endpoint : String)
    (args : List (String × Argument)) : Except Error (List ArgumentDescription) :=
  args.mapM fun (name, a) =>
    if name == credentialsArgument then
      .error (.argument (.reservedName endpoint credentialsArgument))
    else do
      let type ← labelled (argumentLabel endpoint name) (c.convert a.type).result
      return ⟨name, a.kind, type, "", none⟩

/-- What an endpoint returns, if it returns anything. -/
def describeResult (c : Converter TypeRef) (name : String) (e : Endpoint) :
    Except Error (Option TypeRef) :=
  if e.result == "" then pure none
  else (labelled (returnLabel name) (c.convert e.result).result).map some

/-- The credentials of an endpoint, if it needs them. -/
def credentialArguments (m : Module) (e : Endpoint) : List ArgumentDescription :=
  if (m.endpointAuth e).isSome then [⟨credentialsArgument, some .auth, .credentials, "", none⟩]
  else []

/-- The draft of an endpoint. One that needs credentials takes them as its first argument. -/
def describeEndpoint (c : Converter TypeRef) (m : Module) (name : String) (e : Endpoint) :
    Except Error EndpointDraft := do
  let args ← describeArguments c name e.argumentList
  let result ← describeResult c name e
  return ⟨name, e.route.render, credentialArguments m e ++ args, result, e.auth.toList, e.docs⟩

/-- The draft of the service of a module without its endpoints. -/
def start (m : Module) : ServiceDraft :=
  let bare := { ServiceDraft.new m.name with docs := m.docs }
  m.auth.elim bare bare.addAuth

/-- The draft of the service that a module of a project defines. -/
def ofModule (p : Project) (module : String) : Except Error ServiceDraft := do
  let m ← p.getModule module
  let c := TypeRef.converter p module
  let endpoints ← m.endpointList.mapM fun (name, e) => describeEndpoint c m name e
  return { start m with endpoints := endpoints }

end ServiceDraft

/-- The service that a module of a project defines. -/
def ServiceDescription.ofModule (p : Project) (module : String) :
    Except Error ServiceDescription := do
  (← ServiceDraft.ofModule p module).build

namespace ModuleDescription

/-- The descriptions of fields. -/
def describeFields (c : Converter TypeRef) (fields : Option (OrderedMap Field)) :
    Except Error (List FieldDescription) :=
  (OrderedMap.entriesOf fields).mapM fun (name, f) => do
    let type ← labelled ("field " ++ name) (c.convert f.type).result
    return ⟨name, type, f.docs, f.default⟩

/-- The type that a struct extends. -/
def describeBase (c : Converter TypeRef) (name : String) (t : TypeDecl) :
    Except Error (Option TypeRef) :=
  match t.extends_ with
  | some base => (labelled s!"type {name}: extends" (c.convert base).result).map some
  | none => pure none

/-- The description of a type. -/
def describeType (c : Converter TypeRef) (name : String) (t : TypeDecl) :
    Except Error TypeDescription := do
  let base ← describeBase c name t
  let fields ← labelled ("type " ++ name) (describeFields c t.fields)
  let variants ← (OrderedMap.entriesOf t.union).mapM fun (variant, type) => do
    let type ← labelled s!"type {name}: variant {variant}" (c.convert type).result
    return (⟨variant, type, "", none⟩ : FieldDescription)
  return ⟨name, t.shape, t.docs, base, fields, t.values.getD [], variants⟩

/-- The service of a module, if it has one. -/
def describeService (p : Project) (module : String) (m : Module) :
    Except Error (Option ServiceDescription) :=
  if (OrderedMap.entriesOf m.endpoints).isEmpty then pure none
  else (ServiceDescription.ofModule p module).map some

/-- The description of a module of a project. -/
def ofModule (p : Project) (module : String) : Except Error ModuleDescription := do
  let m ← p.getModule module
  let c := TypeRef.converter p module
  let types ← m.typeList.mapM fun (name, t) => describeType c name t
  let errors ← m.errorList.mapM fun (name, e) => do
    let fields ← labelled ("error " ++ name) (describeFields c e.fields)
    return (⟨name, e.effectiveCode, fields, e.docs⟩ : ErrorDescription)
  let service ← describeService p module m
  return ⟨module, m.docs, types, errors, service⟩

/-- The descriptions of all modules of a project, in order. -/
def ofProject (p : Project) : Except Error (List ModuleDescription) :=
  p.moduleNames.mapM fun name => labelled ("module " ++ name) (ofModule p name)

end ModuleDescription

end ApiCompiler
