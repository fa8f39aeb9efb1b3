import ApiCompiler.Describe.Document
import ApiCompiler.Target.Options
import ApiCompiler.Target.Output
import ApiCompiler.Target.TypeScript.Types
import ApiCompiler.Text.Wrap
import ApiCompiler.Writer

/-!
# The TypeScript target

For every module one file: interfaces, enumerations and unions with their run-time
descriptions, interfaces of errors, the two interfaces of the service, and the description of
the service for the client.
-/

namespace ApiCompiler.TypeScript

open Text

/-- The options of the TypeScript target. -/
structure Settings where
  indent : Int
  lineLength : Int
deriving Repr

namespace Settings

/-- The keys of the options. -/
def keys : List (Options.Key Settings) :=
  [.number "indent" fun v s => { s with indent := v },
   .number "line_length" fun v s => { s with lineLength := v }]

/-- Reads the options of the target. -/
def decode (options : ApiCompiler.Options) : Except Error Settings :=
  Options.decode "typescript" keys ⟨0, 0⟩ (options.forTarget "typescript")

/-- Fills what is not set. -/
def withDefaults (s : Settings) : Settings :=
  ⟨if s.indent ≤ 0 then 2 else s.indent, if s.lineLength ≤ 0 then 120 else s.lineLength⟩

end Settings

/-- A piece of code: what it adds to a writer. -/
abbrev Fragment := Writer → Writer

/-- A line. -/
def line (s : String) : Fragment := fun w => w.line s

/-- Several lines. -/
def lines (ls : List String) : Fragment := fun w => ls.foldl Writer.line w

/-- Pieces one after the other. -/
def inOrder (fs : List Fragment) : Fragment := fun w => fs.foldl (fun w f => f w) w

/-- A piece between an opening and a closing line, one level deeper. -/
def block (opening : String) (inner : Fragment) (closing : String) : Fragment :=
  fun w => w.block opening inner closing

/-- An empty line. -/
def gap : Fragment := fun w => w.blank 1

/-- A documentation comment, filled to a length of line. -/
def comment (lineLength : Int) (docs : String) : Fragment := fun w =>
  if isBlankText docs then w
  else
    let body := wrap docs (lineLength - w.indentWidth - 3)
    (body.foldl (fun w l => w.line (" * " ++ l)) (w.line "/**")).line " */"

/-- The beginning of the constant that describes a type. -/
def descriptorHead (name cls : String) : String :=
  "export const " ++ descriptorName name ++ " = new " ++ cls ++ "<" ++ name ++ ">(" ++ quote name

/-- An enumeration. -/
def enumeration (length : Int) (name : String) (values : List EnumValue) : Emit Fragment := do
  let cls ← runtime "EnumType"
  return inOrder
    [block ("export enum " ++ name ++ " \x7b")
      (inOrder (values.map fun v => inOrder
        [comment length v.docs, line (propertyName v.name ++ " = " ++ quote v.name ++ ",")]))
      "\x7d",
     gap, line (descriptorHead name cls ++ ", Object.values(" ++ name ++ "));")]

/-- A union. -/
def union (s : Scope) (name : String) (variants : List (String × String)) : Emit Fragment := do
  let converted ← variants.mapM fun (variant, reference) =>
    Emit.within ("variant " ++ variant) do
      return (variant, ← s.type reference, ← s.descriptor reference)
  let cls ← runtime "UnionType"
  return inOrder
    [line ("export type " ++ name ++ " = " ++ joinWith " | " (converted.map (·.2.1)) ++ ";"), gap,
     block (descriptorHead name cls ++ ", \x7b")
      (lines (converted.map fun (variant, _, d) => propertyName variant ++ ": " ++ d ++ ","))
      "\x7d);"]

/-- The type that a struct extends, with its description. -/
def baseType (s : Scope) (t : TypeDecl) : Emit (Option (String × String)) :=
  match t.extends_ with
  | some base => Emit.within "extends" do
    return some (← s.type base, ← s.descriptor base)
  | none => pure none

/-- A struct. -/
def struct (s : Scope) (name : String) (t : TypeDecl) : Emit Fragment := do
  let fields ← (OrderedMap.entriesOf t.fields).mapM fun (field, f) =>
    Emit.within ("field " ++ field) do
      return (propertyName field, ← s.type f.type, ← s.descriptor f.type)
  let base ← baseType s t
  let cls ← runtime "StructType"
  let extends_ := base.elim "" fun (type, _) => " extends " ++ type
  let closing := base.elim "\x7d);" fun (_, d) =>
    if d == "" then "\x7d);" else "\x7d, " ++ d ++ ");"
  return inOrder
    [block ("export interface " ++ name ++ extends_ ++ " \x7b")
      (lines (fields.map fun (field, type, _) => field ++ ": " ++ type ++ ";")) "\x7d",
     gap,
     block (descriptorHead name cls ++ ", \x7b")
      (lines (fields.map fun (field, _, d) => field ++ ": \x7b type: " ++ d ++ " \x7d,")) closing]

/-- The body of the declaration of a type. -/
def typeBody (length : Int) (s : Scope) (name : String) (t : TypeDecl) : Emit Fragment :=
  match t.shape with
  | .enum => enumeration length name (t.values.getD [])
  | .union => union s name (OrderedMap.entriesOf t.union)
  | .struct => struct s name t

/-- The declaration of a type. -/
def typeDeclaration (length : Int) (s : Scope) (name : String) (t : TypeDecl) : Emit Fragment := do
  Emit.ofExcept (t.validate none)
  let body ← typeBody length s name t
  return inOrder [comment length t.docs, body]

/-- The interface of an error. -/
def errorDeclaration (length : Int) (s : Scope) (name : String) (e : ErrorDecl) :
    Emit Fragment := do
  let params ← (OrderedMap.entriesOf e.fields).mapM fun (field, f) => do
    return propertyName field ++ ": " ++ (← (s.type f.type).within ("field " ++ field)) ++ ";"
  let base ← runtime "ServiceException"
  let parameters := if params.isEmpty then id
    else block "parameters: \x7b" (lines params) "\x7d;"
  return inOrder
    [comment length e.docs,
     block ("export interface " ++ name ++ "Error extends " ++ base ++ " \x7b")
      (inOrder
        [line ("error_name: " ++ quote (s.module.name ++ ":" ++ name) ++ ";"),
         line ("error_code: " ++ quote e.effectiveCode.text ++ ";"), parameters]) "\x7d"]

/-- The parameter of an endpoint for credentials, if it needs them. -/
def credentialParams (s : Scope) (e : Endpoint) : Emit (List String) :=
  if (s.module.endpointAuth e).isSome then do return ["auth: " ++ (← runtime "Credentials")]
  else return []

/-- The type of what an endpoint returns. -/
def resultType (s : Scope) (name : String) (e : Endpoint) : Emit String :=
  if e.result == "" then pure "void" else (s.type e.result).within (returnLabel name)

/-- The signature of an endpoint. -/
def signature (s : Scope) (isAsync : Bool) (name : String) (e : Endpoint) : Emit String := do
  let credentials ← credentialParams s e
  let args ← e.argumentList.mapM fun (argument, a) => do
    let type ← (s.type a.type).within (argumentLabel name argument)
    return paramName argument ++ ": " ++ type
  let result ← resultType s name e
  let result := if isAsync then "Promise<" ++ result ++ ">" else result
  return name ++ "(" ++ joinWith ", " (credentials ++ args) ++ "): " ++ result ++ ";"

/-- The name of the constant that describes the service. -/
def serviceDescriptorName (m : Module) : String := m.name ++ "Service_TYPE"

/-- The function that makes a client. -/
def clientNamespace (s : Scope) (name : String) : Emit Fragment := do
  let config ← runtime "ClientConfig"
  let create ← runtime "createAsyncClient"
  return block ("export namespace " ++ name ++ " \x7b")
    (block ("export function client(config: " ++ config ++ "): " ++ name ++ " \x7b")
      (line ("return " ++ create ++ "<" ++ name ++ ">(" ++ serviceDescriptorName s.module ++
        ", config);")) "\x7d") "\x7d"

/-- The client of an interface of the service; only the asynchronous one has one. -/
def client (s : Scope) (isAsync : Bool) (name : String) : Emit Fragment :=
  if isAsync then do return inOrder [gap, ← clientNamespace s name] else return id

/-- An interface of the service with its client. -/
def serviceInterface (length : Int) (s : Scope) (isAsync : Bool) : Emit Fragment := do
  let name := s.module.name ++ (if isAsync then "ServiceAsync" else "ServiceBlocking")
  let methods ← s.module.endpointList.mapM fun (endpoint, e) => signature s isAsync endpoint e
  let client ← client s isAsync name
  return inOrder
    [comment length s.module.docs,
     block ("export interface " ++ name ++ " \x7b") (lines methods) "\x7d", client]

/-- The entry of a declared authentication. -/
def authEntry (auth : Option Auth) : Fragment :=
  auth.elim id fun a => line ("auth: " ++ a.toJson.compact ++ ",")

/-- The member of the enumeration of kinds. -/
def kindMember : ParamKind → String
  | .auth => "AUTH"
  | .body => "BODY"
  | .cookie => "COOKIE"
  | .header => "HEADER"
  | .path => "PATH"
  | .query => "QUERY"
  | .other _ => ""

/-- The entries of the arguments of an endpoint. -/
def argumentEntries (args : List (ResolvedArgument × String)) : Emit Fragment :=
  if args.isEmpty then return id
  else do
    let kind ← runtime "ParamKind"
    let entries := args.map fun (a, d) =>
      block (propertyName a.name ++ ": \x7b")
        (lines ["kind: " ++ kind ++ "." ++ kindMember a.kind ++ ",", "type: " ++ d ++ ","]) "\x7d,"
    let names := args.map fun (a, _) => quote a.name
    return inOrder
      [block "args: \x7b" (inOrder entries) "\x7d,",
       line ("args_ordering: [" ++ joinWith ", " names ++ "],")]

/-- The entry of what an endpoint returns, if it returns anything. -/
def resultEntry (s : Scope) (e : Endpoint) : Emit Fragment :=
  if e.result == "" then return id
  else do return line ("return: " ++ (← (s.descriptor e.result).within "return") ++ ",")

/-- The entry of an endpoint. -/
def endpointEntry (s : Scope) (name : String) (e : Endpoint) : Emit Fragment := do
  let resolved ← Emit.ofExcept e.resolveArguments
  let result ← resultEntry s e
  let args ← resolved.mapM fun a => do
    return (a, ← (s.descriptor a.type).within ("argument " ++ a.name))
  let arguments ← argumentEntries args
  return block (propertyName name ++ ": \x7b")
    (inOrder
      [line ("method: " ++ quote e.route.method ++ ","),
       line ("path: " ++ quote e.route.path ++ ","), authEntry e.auth, result, arguments]) "\x7d,"

/-- The description of the service. -/
def serviceDescriptor (s : Scope) : Emit Fragment := do
  let service ← runtime "Service"
  let entries ← s.module.endpointList.mapM fun (name, e) =>
    (endpointEntry s name e).within ("endpoint " ++ name)
  return block ("export const " ++ serviceDescriptorName s.module ++ ": " ++ service ++ " = \x7b")
    (inOrder [authEntry s.module.auth, block "endpoints: \x7b" (inOrder entries) "\x7d,"]) "\x7d;"

/-- The pieces of the service, if there is one. -/
def servicePieces (length : Int) (s : Scope) : Emit (List Fragment) :=
  if (OrderedMap.entriesOf s.module.endpoints).isEmpty then return []
  else do
    let interfaces ← [true, false].mapM (serviceInterface length s)
    return interfaces ++ [← serviceDescriptor s]

/-- The pieces of a module: types, errors, and the service. -/
def pieces (length : Int) (s : Scope) : Emit (List Fragment) := do
  let types ← s.module.typeList.mapM fun (name, t) =>
    (typeDeclaration length s name t).within ("type " ++ name)
  let errors ← s.module.errorList.mapM fun (name, e) =>
    (errorDeclaration length s name e).within ("error " ++ name)
  let services ← servicePieces length s
  return types ++ errors ++ services

/-- The import lines of a file, with an empty line behind them. -/
def writeImports (im : Imports) : Fragment := fun w =>
  if im.groups.isEmpty then w
  else
    let w := im.groups.foldl (fun w g =>
      let symbols := joinWith ", " g.symbols
      w.line ("import \x7b " ++ symbols ++ " \x7d from " ++ quote g.source ++ ";")) w
    w.blank 1

/-- The TypeScript file of a module of a project. -/
def renderModule (project : Project) (name : String) (settings : Settings) :
    Except Error String := do
  let settings := settings.withDefaults
  let m ← project.getModule name
  let s : Scope := ⟨project, name, m⟩
  let (fragments, im) ← (pieces settings.lineLength s).run (.new (importSource name))
  let w := (Writer.new (repeated settings.indent.toNat " ")).addSection
  let w := inOrder (fragments.intersperse gap) w
  return (w.modifyAt (writeImports im) [0]).text

/-- The files of the TypeScript target. -/
def generate (project : Project) (settings : Settings) : Plan :=
  Plan.ofList (fun name => do
    let content ← labelled ("typescript: module " ++ name) (renderModule project name settings)
    return ⟨name ++ ".ts", content⟩) project.moduleNames

end ApiCompiler.TypeScript
