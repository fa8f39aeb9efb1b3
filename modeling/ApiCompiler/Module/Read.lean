import ApiCompiler.Module
import ApiCompiler.Yaml.Mapping
import ApiCompiler.Yaml.Record
import ApiCompiler.Yaml.Untyped

/-!
# Reading definitions

The shapes of the records in a definition file, and the reading of modules and types from
their text. Every declaration inside an ordered group is read by itself, so its misfits carry
the name of the declaration.
-/

namespace ApiCompiler

open Text Yaml

/-- Sets a text of a record; a null leaves it. -/
def textPart {R : Type} (type : String) (get : R → String) (put : String → R → R) :
    Node → R → Fit R :=
  part (Reader.text type) get put

/-- Sets the documentation of a record; a null leaves it. -/
def docsPart {R : Type} (get : R → RawText) (put : RawText → R → R) : Node → R → Fit R :=
  part (Reader.rawText "string") get put

/-- A declaration with a short form: a scalar stands for one of its texts. -/
def shortOr {R : Type} (short : String → R) (long : Surroundings → Node → Except Error R)
    (s : Surroundings) (n : Node) : Except Error R :=
  match n with
  | .scalar _ _ text => .ok (short text)
  | n => long s n

/-- A reader of an ordered map that a null removes. `type` is the type of its values. -/
def groupReader {V : Type} (type : String) (read : Surroundings → Node → Except Error V) :
    Reader (Option (OrderedMap V)) :=
  (Reader.orderedMap read).optional s!"ordered.Map[{type}]" OrderedMap.empty

/-- The full name of a type of values of ordered maps. -/
def fullName (type : String) : String := "github.com/broady/cytonic." ++ type

namespace Auth

/-- The record of a declared authentication. -/
def recordType : RecordType Auth where
  name := "cytonic.AuthenticationConfig"
  start := ⟨.other "", ""⟩
  set
    | "type" => some (textPart "cytonic.AuthType" (·.method.text) fun t a =>
        { a with method := .ofText t })
    | "header_name" => some (textPart "string" (·.headerName) fun t a => { a with headerName := t })
    | _ => none

end Auth

namespace Field

/-- A field without a type. -/
def blank : Field := ⟨"", "", none⟩

/-- The record of a field under one of its two names. -/
def recordType (name : String) : RecordType Field where
  name := name
  start := blank
  set
    | "type" => some (textPart "string" (·.type) fun t f => { f with type := t })
    | "docs" => some (docsPart (·.docs) fun t f => { f with docs := t })
    | "default" =>
      some (part untyped (·.default.getD .null) fun v f => { f with default := some v })
    | _ => none

/-- A field: its type alone, or a mapping. Only a default that the mapping itself writes
counts. -/
def ofNode : Surroundings → Node → Except Error Field :=
  shortOr (fun type => ⟨type, "", none⟩) fun s n => do
    let f ← (recordType "cytonic.plain").readAlone s n
    return { f with default := if n.hasKey "default" then some (f.default.getD .null) else none }

/-- A field that is marked as null. It has no default. -/
def nullReader : Reader Field := fun n before => do
  let (f, good) ← (recordType "cytonic.FieldConfig").reader n before
  return ({ f with default := none }, good)

/-- Reads a field by itself; a null is a field without a type. -/
def read : Surroundings → Node → Except Error Field :=
  (Reader.orNull nullReader (Reader.embedded ofNode)).alone blank

/-- A reader of fields in their order. -/
def groupReader : Reader (Option (OrderedMap Field)) :=
  ApiCompiler.groupReader (fullName "FieldConfig") read

end Field

namespace EnumValue

/-- The record of a value of an enumeration under one of its two names. -/
def recordType (name : String) : RecordType EnumValue where
  name := name
  start := ⟨"", ""⟩
  set
    | "name" => some (textPart "string" (·.name) fun t v => { v with name := t })
    | "docs" => some (docsPart (·.docs) fun t v => { v with docs := t })
    | _ => none

/-- A value of an enumeration: its name alone, or a mapping. -/
def ofNode : Surroundings → Node → Except Error EnumValue :=
  shortOr (fun name => ⟨name, ""⟩) (recordType "cytonic.plain").readAlone

/-- A reader of values of an enumeration. -/
def reader : Reader EnumValue :=
  Reader.orNull (recordType "cytonic.ValueConfig").reader (Reader.embedded ofNode)

end EnumValue

namespace TypeDecl

/-- The record of a type. -/
def recordType : RecordType TypeDecl where
  name := "cytonic.TypeConfig"
  start := empty
  set
    | "values" => some (part (Reader.list "[]cytonic.ValueConfig" EnumValue.reader ⟨"", ""⟩)
        (·.values) fun v t => { t with values := v })
    | "extends" => some (part ((Reader.text "string").optional "string" "") (·.extends_)
        fun v t => { t with extends_ := v })
    | "fields" => some (part Field.groupReader (·.fields) fun v t => { t with fields := v })
    | "union" => some (part (groupReader "string" readText) (·.union)
        fun v t => { t with union := v })
    | "docs" => some (docsPart (·.docs) fun d t => { t with docs := d })
    | _ => none

/-- Reads a type by itself; a null is no definition. -/
def read : Surroundings → Node → Except Error (Option TypeDecl) := recordType.optional.alone none

/-- The type that a document defines. -/
def parse (text : String) : Except Error TypeDecl :=
  recordType.reader.ofText empty false text Document.parse

end TypeDecl

namespace ErrorDecl

/-- The record of an error. -/
def recordType : RecordType ErrorDecl where
  name := "cytonic.ErrorConfig"
  start := ⟨none, none, ""⟩
  set
    | "error_code" => some (textPart "cytonic.ErrorCode" (·.code.elim "" ErrorCode.text) fun c e =>
        { e with code := if c == "" then none else some (.ofText c) })
    | "fields" => some (part Field.groupReader (·.fields) fun v e => { e with fields := v })
    | "docs" => some (docsPart (·.docs) fun d e => { e with docs := d })
    | _ => none

/-- Reads an error by itself; a null is no definition. -/
def read : Surroundings → Node → Except Error (Option ErrorDecl) := recordType.optional.alone none

end ErrorDecl

namespace Argument

/-- The record of an argument. -/
def recordType : RecordType Argument where
  name := "cytonic.plain"
  start := ⟨"", none⟩
  set
    | "type" => some (textPart "string" (·.type) fun t a => { a with type := t })
    | "kind" => some (textPart "cytonic.ParamKind" (·.kind.elim "" ParamKind.text) fun k a =>
        { a with kind := ParamKind.ofText? k })
    | _ => none

/-- An argument: its type alone, or a mapping, whose kind is checked at once. -/
def ofNode : Surroundings → Node → Except Error Argument :=
  shortOr (fun type => ⟨type, none⟩) fun s n => do
    let a ← recordType.readAlone s n
    a.validate
    return a

/-- Reads an argument by itself; a null is no definition. -/
def read : Surroundings → Node → Except Error (Option Argument) :=
  ((Reader.embedded ofNode).optional "cytonic.ArgumentConfig" recordType.start).alone none

end Argument

namespace Route

/-- The record form of a route, which can give a method only. -/
def recordType : RecordType Route where
  name := "cytonic.HTTPPath"
  start := unset
  set
    | "method" => some (textPart "string" (·.method) fun m r => { r with method := m })
    | _ => none

/-- A reader of routes. A scalar is the written form; a null leaves the route unset. -/
def reader : Reader Route := fun n before => do
  match n with
  | .scalar _ _ _ =>
    let (written, good) ← Reader.text "string" n ""
    if !good then return (before, false)
    match parse written with
    | .ok r => return (r, true)
    | .error e => Fit.fail e
  | n => recordType.reader n before

end Route

namespace Endpoint

/-- The record of an endpoint. -/
def recordType : RecordType Endpoint where
  name := "cytonic.EndpointConfig"
  start := ⟨Route.unset, none, none, "", ""⟩
  set
    | "http" => some (part Route.reader (·.route) fun r e => { e with route := r })
    | "auth" => some (part Auth.recordType.optional (·.auth) fun a e => { e with auth := a })
    | "args" => some (part (groupReader ("*" ++ fullName "ArgumentConfig") Argument.read)
        (·.arguments) fun v e => { e with arguments := v })
    | "return" => some (textPart "string" (·.result) fun t e => { e with result := t })
    | "docs" => some (docsPart (·.docs) fun d e => { e with docs := d })
    | _ => none

/-- Reads an endpoint by itself; a null is no definition. -/
def read : Surroundings → Node → Except Error (Option Endpoint) := recordType.optional.alone none

end Endpoint

namespace Module

/-- The record of a module. -/
def recordType : RecordType Module where
  name := "cytonic.ModuleConfig"
  start := empty
  set
    | "name" => some (textPart "string" (·.name) fun t m => { m with name := t })
    | "docs" => some (docsPart (·.docs) fun t m => { m with docs := t })
    | "auth" => some (part Auth.recordType.optional (·.auth) fun a m => { m with auth := a })
    | "types" => some (part (groupReader ("*" ++ fullName "TypeConfig") TypeDecl.read) (·.types)
        fun v m => { m with types := v })
    | "errors" => some (part (groupReader ("*" ++ fullName "ErrorConfig") ErrorDecl.read)
        (·.errors) fun v m => { m with errors := v })
    | "endpoints" => some (part (groupReader ("*" ++ fullName "EndpointConfig") Endpoint.read)
        (·.endpoints) fun v m => { m with endpoints := v })
    | _ => none

/-- The module that a document defines, as far as its shape goes; the empty module without a
document. A strict reading complains about unknown keys of the module and of its
authentication. -/
def parse (strict : Bool) (text : String) : Except Error Module :=
  recordType.reader.ofText empty strict text Document.parse

/-- Reads and validates the definition of a module. -/
def decode (text : String) : Except Error Module := do
  let m ← match parse true text with
    | .ok m => .ok m
    | .error e => .error (Error.within "decoding module" e).orInvalidConfig
  m.validate
  return m

end Module

end ApiCompiler
