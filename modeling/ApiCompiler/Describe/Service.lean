import ApiCompiler.Describe.TypeRef

/-!
# Descriptions of services

What a framework needs to serve or to call a service: its endpoints with their routes, every
argument with its kind and type, and the methods of authentication.
-/

namespace ApiCompiler

open Text

/-- An argument of an endpoint. An argument that was never described has no kind. The alias,
if it is not empty, is its name in requests. -/
structure ArgumentDescription where
  name : String
  kind : Option ParamKind
  type : TypeRef
  aliasName : String
  default : Option Value
deriving Repr

namespace ArgumentDescription

/-- The description of nothing. -/
def none : ArgumentDescription := ⟨"", Option.none, .unspecified, "", Option.none⟩

/-- The name of the argument in a request. -/
def httpName (a : ArgumentDescription) : String := if a.aliasName == "" then a.name else a.aliasName

end ArgumentDescription

/-- An endpoint. Credentials, if it takes any, are its first argument. -/
structure EndpointDescription where
  name : String
  route : Route
  args : List ArgumentDescription
  result : Option TypeRef
  auth : List Auth
  docs : RawText
deriving Repr

namespace EndpointDescription

/-- The argument with a name. -/
def arg? (e : EndpointDescription) (name : String) : Option ArgumentDescription :=
  e.args.find? (·.name == name)

/-- The names of the arguments in the order of a call. -/
def argNames (e : EndpointDescription) : List String := e.args.map (·.name)

end EndpointDescription

/-- A service. -/
structure ServiceDescription where
  name : String
  auth : List Auth
  endpoints : List EndpointDescription
  docs : RawText
deriving Repr

namespace ServiceDescription

/-- The endpoint with a name. -/
def endpoint? (s : ServiceDescription) (name : String) : Option EndpointDescription :=
  s.endpoints.find? (·.name == name)

/-- Puts an element in the place of one with the same key, or at the end. -/
def upsert {α κ : Type} [BEq κ] (key : α → κ) : List α → α → List α
  | [], a => [a]
  | b :: rest, a => if key b == key a then a :: rest else b :: upsert key rest a

/-- A service that combines two. Where both have a method of authentication or an endpoint, the
other's counts; all stand in the order of first appearance. The name is the other's. -/
def update (s other : ServiceDescription) : ServiceDescription where
  name := other.name
  auth := (s.auth ++ other.auth).foldl (upsert (·.method)) []
  endpoints := (s.endpoints ++ other.endpoints).foldl (upsert (·.name)) []
  docs := if other.docs == "" then s.docs else other.docs

end ServiceDescription

end ApiCompiler
