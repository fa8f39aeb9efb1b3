import ApiCompiler.Error

/-!
# Error codes

The categories of errors that a service raises, and the envelope in which such an error
travels.
-/

namespace ApiCompiler

/-- A category of service errors; `other` is a name outside the known categories. -/
inductive ErrorCode where
  | notFound
  | unauthorized
  | conflict
  | illegalArgument
  | internal
  | other (name : String)
deriving DecidableEq, Repr

namespace ErrorCode

/-- The name of a category in definitions and on the wire. -/
def text : ErrorCode → String
  | notFound => "NOT_FOUND"
  | unauthorized => "UNAUTHORIZED"
  | conflict => "CONFLICT"
  | illegalArgument => "ILLEGAL_ARGUMENT"
  | internal => "INTERNAL"
  | other name => name

/-- The category with a name. -/
def ofText (name : String) : ErrorCode :=
  if name = "NOT_FOUND" then notFound
  else if name = "UNAUTHORIZED" then unauthorized
  else if name = "CONFLICT" then conflict
  else if name = "ILLEGAL_ARGUMENT" then illegalArgument
  else if name = "INTERNAL" then internal
  else other name

/-- A known category. -/
def isKnown : ErrorCode → Bool
  | other _ => false
  | _ => true

/-- The status of the response that carries an error of the category. -/
def httpStatus : ErrorCode → Nat
  | notFound => 404
  | unauthorized => 403
  | conflict => 409
  | illegalArgument => 400
  | internal | other _ => 500

end ErrorCode

/-- An error as it travels: its category, its qualified name and its parameters, if any were
ever given. -/
structure ServiceError (V : Type) where
  code : ErrorCode
  name : String
  parameters : Option (List (String × V))
deriving Repr

namespace ServiceError

variable {V : Type}

/-- An error without parameters. -/
def new (code : ErrorCode) (name : String) : ServiceError V := ⟨code, name, none⟩

/-- The text of an error. -/
def message (e : ServiceError V) : String := e.code.text ++ ": " ++ e.name

/-- The same error with one parameter set. -/
def withParameter (e : ServiceError V) (key : String) (value : V) : ServiceError V :=
  let kept := (e.parameters.getD []).filter fun (k, _) => k != key
  { e with parameters := some (kept ++ [(key, value)]) }

end ServiceError

end ApiCompiler
