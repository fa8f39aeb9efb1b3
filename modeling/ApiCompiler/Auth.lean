import ApiCompiler.Error

/-!
# Authentication

How a service or an endpoint authenticates its callers, and the credentials that a call
carries.
-/

namespace ApiCompiler

open Text

/-- A method of authentication; `other` is a name that is none of the known methods. -/
inductive AuthMethod where
  | oauth2Bearer
  | basic
  | none
  | other (name : String)
deriving DecidableEq, Repr

namespace AuthMethod

/-- The name of a method in definitions. -/
def text : AuthMethod → String
  | oauth2Bearer => "oauth2_bearer"
  | basic => "basic"
  | none => "none"
  | other name => name

/-- The method with a name. -/
def ofText (name : String) : AuthMethod :=
  if name = "oauth2_bearer" then oauth2Bearer
  else if name = "basic" then basic
  else if name = "none" then none
  else other name

end AuthMethod

/-- A declared authentication. Only bearer tokens may name the header that carries them. -/
structure Auth where
  method : AuthMethod
  headerName : String
deriving DecidableEq, Repr

namespace Auth

/-- Bearer tokens in a header; an empty name means the standard header. -/
def oauth2Bearer (headerName : String) : Auth := ⟨.oauth2Bearer, headerName⟩

/-- User name and password. -/
def basic : Auth := ⟨.basic, ""⟩

/-- Authentication explicitly switched off. -/
def off : Auth := ⟨.none, ""⟩

/-- Calls need credentials. -/
def isRequired (a : Auth) : Bool := a.method ≠ .none

/-- The method is known and has a header name only where one makes sense. -/
def validate (a : Auth) : Except Error Unit :=
  match a.method with
  | .oauth2Bearer => .ok ()
  | .basic | .none =>
    if a.headerName ≠ "" then .error (.config (.headerNotAccepted a.method.text)) else .ok ()
  | .other name => .error (.config (.unknownAuth name))

/-- The name of the runtime class of the method. -/
def className (a : Auth) : String :=
  match a.method with
  | .oauth2Bearer => "OAuth2Bearer"
  | .basic => "BasicAuth"
  | _ => "NoAuth"

/-- The construction of the runtime object. -/
def construction (a : Auth) : String :=
  if a.headerName = "" then a.className ++ "()"
  else a.className ++ "(header_name=" ++ quote a.headerName ++ ")"

end Auth

/-- The credentials of a call: a bearer token, or a user name and a password. -/
structure Credentials where
  bearerToken : String
  basic : Option (String × String)
deriving DecidableEq, Repr

namespace Credentials

/-- The bearer token, if the credentials are one. -/
def getBearerToken (c : Credentials) : Except Error String :=
  if c.bearerToken = "" then .error .noBearerToken else .ok c.bearerToken

/-- The user name and the password, if the credentials are such a pair. -/
def getBasic (c : Credentials) : Except Error (String × String) :=
  match c.basic with
  | some pair => .ok pair
  | none => .error .noBasicCredentials

end Credentials

end ApiCompiler
