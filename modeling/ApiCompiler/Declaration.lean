import ApiCompiler.ErrorCode
import ApiCompiler.OrderedMap
import ApiCompiler.Text.RawText
import ApiCompiler.Value

/-!
# Declarations of types and errors

A custom type has one of three shapes: an enumeration, a struct or a union. Declarations of
errors have fields like structs.
-/

namespace ApiCompiler

open Text

/-- A field of a struct or an error. The default is present exactly if the definition writes
one, even a null. -/
structure Field where
  type : String
  docs : RawText
  default : Option Value
deriving Repr, BEq

/-- A value of an enumeration. -/
structure EnumValue where
  name : String
  docs : RawText
deriving Repr, DecidableEq

/-- A declaration of a custom type. -/
structure TypeDecl where
  values : Option (List EnumValue)
  extends_ : Option String
  fields : Option (OrderedMap Field)
  union : Option (OrderedMap String)
  docs : RawText
deriving Repr, BEq

/-- The shape of a custom type. -/
inductive TypeShape where
  | struct
  | enum
  | union
deriving Repr, DecidableEq

namespace TypeShape

/-- The name of a shape. -/
def text : TypeShape → String
  | struct => "struct"
  | enum => "enum"
  | union => "union"

end TypeShape

namespace TypeDecl

/-- The declaration that declares nothing: an empty struct. -/
def empty : TypeDecl := ⟨none, none, none, none, ""⟩

/-- The shape of a type; one that declares nothing is a struct. -/
def shape (t : TypeDecl) : TypeShape :=
  if t.values.isSome then .enum else if t.union.isSome then .union else .struct

/-- The groups of keys that exclude each other, each with whether the type declares one of
its keys. -/
def shapeGroups (t : TypeDecl) : List (List String × Bool) :=
  [(["values"], t.values.isSome),
   (["extends", "fields"], t.extends_.isSome || t.fields.isSome),
   (["union"], t.union.isSome)]

/-- The first two groups of keys that a list of groups declares together. -/
def firstClash : List (List String × Bool) → Option (List String × List String)
  | [] => none
  | (keys, declared) :: rest =>
    match declared, rest.find? (·.2) with
    | true, some (others, _) => some (keys, others)
    | _, _ => firstClash rest

/-- The documentation of a type and of its parts. -/
def documentation (t : TypeDecl) : List RawText :=
  t.docs :: ((t.values.getD []).map (·.docs) ++ (OrderedMap.entriesOf t.fields).map (·.2.docs))

/-- A type declares keys of one group only. The name, if given, is for the message. -/
def validate (t : TypeDecl) (name : Option String) : Except Error Unit :=
  match firstClash t.shapeGroups with
  | some (first, second) => .error (.exclusive name first second)
  | none => .ok ()

end TypeDecl

/-- A declaration of an error that endpoints raise. -/
structure ErrorDecl where
  code : Option ErrorCode
  fields : Option (OrderedMap Field)
  docs : RawText
deriving Repr, BEq

namespace ErrorDecl

/-- The category of an error; internal unless declared. -/
def effectiveCode (e : ErrorDecl) : ErrorCode := e.code.getD .internal

/-- The documentation of an error and of its fields. -/
def documentation (e : ErrorDecl) : List RawText :=
  e.docs :: (OrderedMap.entriesOf e.fields).map (·.2.docs)

/-- The category is a known one. -/
def validate (e : ErrorDecl) : Except Error Unit :=
  if e.effectiveCode.isKnown then .ok ()
  else .error (.config (.unknownErrorCode e.effectiveCode.text))

end ErrorDecl

end ApiCompiler
