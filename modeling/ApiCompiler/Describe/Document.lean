import ApiCompiler.Describe.Module

/-!
# Documents of descriptions

Descriptions as JSON documents. A default that JSON cannot express makes a document
impossible: a number that is not finite, a time that is too far from UTC, or a mapping with a
null or a truth value as a key. Numbers and times as keys are written as texts.
-/

namespace ApiCompiler

open Decimal Text

namespace Value

/-- The text of a key of a table, if it has one. -/
def keyText? : Value → Option String
  | int i => some (toString i)
  | float d => if d.isFinite then some (Layout.document.text d) else none
  | str s => some s
  | time t => if t.isDocumentable then some t.documentText else none
  | _ => none

mutual

/-- The document of a plain value. -/
def toJson : Value → Except Error Json
  | null => .ok .null
  | bool b => .ok (.bool b)
  | int i => .ok (.number (toString i))
  | float d => if d.isFinite then .ok (.number (Layout.document.text d)) else .error .unencodable
  | str s => .ok (.str s)
  | time t => if t.isDocumentable then .ok (.str t.documentText) else .error .unencodable
  | list items => (toJsonAll items).map .arr
  | map entries => (toJsonEntries entries).map fun entries => .obj (sortedEntries entries)
  | table entries => (toJsonTable entries).map fun entries => .obj (sortedEntries entries)

/-- The documents of several values. -/
def toJsonAll : List Value → Except Error (List Json)
  | [] => .ok []
  | v :: rest =>
    match v.toJson, toJsonAll rest with
    | .ok v, .ok rest => .ok (v :: rest)
    | .error e, _ => .error e
    | _, .error e => .error e

/-- The documents of the values of a map. -/
def toJsonEntries : List (String × Value) → Except Error (List (String × Json))
  | [] => .ok []
  | (k, v) :: rest =>
    match v.toJson, toJsonEntries rest with
    | .ok v, .ok rest => .ok ((k, v) :: rest)
    | .error e, _ => .error e
    | _, .error e => .error e

/-- The documents of the entries of a table. -/
def toJsonTable : List (Value × Value) → Except Error (List (String × Json))
  | [] => .ok []
  | (k, v) :: rest =>
    match k.keyText?, v.toJson, toJsonTable rest with
    | some k, .ok v, .ok rest => .ok ((k, v) :: rest)
    | none, _, _ => .error .unencodable
    | _, .error e, _ => .error e
    | _, _, .error e => .error e

end

end Value

/-- The entry of a default, if there is one. -/
def defaultEntry (default : Option Value) : Except Error (List (String × Json)) :=
  match default with
  | some v => v.toJson.map fun v => [("default", v)]
  | none => .ok []

/-- The document of a declared authentication. -/
def Auth.toJson (a : Auth) : Json :=
  .obj ([("type", .str a.method.text)] ++ Json.textEntry "header_name" a.headerName)

/-- The document of an argument. -/
def ArgumentDescription.toJson (a : ArgumentDescription) : Except Error Json := do
  return .obj ([("name", .str a.name), ("kind", .str (a.kind.elim "" ParamKind.text : String)),
    ("type", a.type.toJson)] ++ Json.textEntry "alias" a.aliasName ++
    (← defaultEntry a.default))

/-- The document of an endpoint. -/
def EndpointDescription.toJson (e : EndpointDescription) : Except Error Json := do
  return .obj ([("name", .str e.name), ("http", .str e.route.render),
    ("args", .arr (← e.args.mapM ArgumentDescription.toJson)),
    ("args_ordering", .arr (e.argNames.map fun name : String => .str name))] ++
    Json.optionEntry "return" (e.result.map TypeRef.toJson) ++
    Json.listEntry "auth" (e.auth.map Auth.toJson) ++ Json.textEntry "docs" e.docs)

/-- The document of a service. -/
def ServiceDescription.toJson (s : ServiceDescription) : Except Error Json := do
  return .obj ([("name", .str s.name)] ++ Json.listEntry "auth" (s.auth.map Auth.toJson) ++
    [("endpoints", .arr (← s.endpoints.mapM EndpointDescription.toJson))] ++
    Json.textEntry "docs" s.docs)

/-- The document of a field. -/
def FieldDescription.toJson (f : FieldDescription) : Except Error Json := do
  return .obj ([("name", .str f.name), ("type", f.type.toJson)] ++
    Json.textEntry "docs" f.docs ++ (← defaultEntry f.default))

/-- The document of a value of an enumeration. -/
def EnumValue.toJson (v : EnumValue) : Json :=
  .obj ([("name", .str v.name)] ++ Json.textEntry "docs" v.docs)

/-- The document of a type. -/
def TypeDescription.toJson (t : TypeDescription) : Except Error Json := do
  return .obj ([("kind", .str t.shape.text), ("name", .str t.name)] ++
    Json.textEntry "docs" t.docs ++ Json.optionEntry "extends" (t.base.map TypeRef.toJson) ++
    Json.listEntry "fields" (← t.fields.mapM FieldDescription.toJson) ++
    Json.listEntry "values" (t.values.map EnumValue.toJson) ++
    Json.listEntry "union" (← t.variants.mapM FieldDescription.toJson))

/-- The document of an error. -/
def ErrorDescription.toJson (e : ErrorDescription) : Except Error Json := do
  return .obj ([("kind", .str "error"), ("name", .str e.name), ("error_code", .str e.code.text)] ++
    Json.listEntry "fields" (← e.fields.mapM FieldDescription.toJson) ++
    Json.textEntry "docs" e.docs)

/-- The document of a module. -/
def ModuleDescription.toJson (m : ModuleDescription) : Except Error Json := do
  let service ← match m.service with
    | some s => s.toJson.map some
    | none => pure none
  return .obj ([("module", .str m.module)] ++ Json.textEntry "docs" m.docs ++
    Json.listEntry "types" (← m.types.mapM TypeDescription.toJson) ++
    Json.listEntry "errors" (← m.errors.mapM ErrorDescription.toJson) ++
    Json.optionEntry "service" service)

/-- The document of all modules of a project; null for none. -/
def ModuleDescription.listToJson (ms : List ModuleDescription) : Except Error Json := do
  if ms.isEmpty then return .null else return .arr (← ms.mapM toJson)

end ApiCompiler
