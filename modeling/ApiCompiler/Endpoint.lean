import ApiCompiler.Auth
import ApiCompiler.OrderedMap
import ApiCompiler.Route
import ApiCompiler.Text.RawText

/-!
# Endpoints

An endpoint declares a route, its arguments and its result. Where an argument travels in the
request may be left open; `Endpoint.resolveArguments` settles it from the route.
-/

namespace ApiCompiler

open Text

/-- Where an argument travels in a request; `other` is a name outside the vocabulary. -/
inductive ParamKind where
  | auth
  | body
  | cookie
  | header
  | path
  | query
  | other (name : String)
deriving DecidableEq, Repr

namespace ParamKind

/-- The name of a kind in definitions. -/
def text : ParamKind → String
  | auth => "auth"
  | body => "body"
  | cookie => "cookie"
  | header => "header"
  | path => "path"
  | query => "query"
  | other name => name

/-- The kind with a name. -/
def ofText (name : String) : ParamKind :=
  if name = "auth" then auth
  else if name = "body" then body
  else if name = "cookie" then cookie
  else if name = "header" then header
  else if name = "path" then path
  else if name = "query" then query
  else other name

/-- The kind with a name, or none for the empty name. -/
def ofText? (name : String) : Option ParamKind :=
  if name = "" then none else some (ofText name)

/-- Reads a kind of the vocabulary. -/
def parse (name : String) : Except Error ParamKind :=
  match ofText name with
  | other name => .error (.argument (.unknownKind name))
  | kind => .ok kind

end ParamKind

/-- A declared argument: its type reference and, if declared, its kind. -/
structure Argument where
  type : String
  kind : Option ParamKind
deriving DecidableEq, Repr

namespace Argument

/-- The kind of an argument is of the vocabulary, and not the one that is reserved for
credentials. -/
def validate (a : Argument) : Except Error Unit :=
  match a.kind with
  | none => .ok ()
  | some .auth => .error (.argument .authKind)
  | some (.other name) => .error (.argument (.unknownKind name))
  | some _ => .ok ()

/-- An argument with a kind by name; the empty name leaves the kind open. -/
def new (type kind : String) : Except Error Argument := do
  let a : Argument := ⟨type, ParamKind.ofText? kind⟩
  a.validate
  return a

end Argument

/-- An argument with its kind settled. -/
structure ResolvedArgument where
  name : String
  type : String
  kind : ParamKind
deriving DecidableEq, Repr

/-- A declared endpoint. An empty result type means that nothing is returned. -/
structure Endpoint where
  route : Route
  auth : Option Auth
  arguments : Option (OrderedMap (Option Argument))
  result : String
  docs : RawText
deriving DecidableEq, Repr

namespace Endpoint

/-- The argument names that claim the body of a request. -/
def bodyNames : List String := ["body", "request"]

/-- The arguments that have a definition, in order. -/
def argumentList (e : Endpoint) : List (String × Argument) :=
  (OrderedMap.entriesOf e.arguments).filterMap fun (name, a) => a.map fun a => (name, a)

/-- The kinds of arguments that are settled one after the other. `free` says that the body
is not yet taken. -/
def settle (route : Route) (mayClaim : String → Bool) :
    Bool → List (String × Argument) → List ResolvedArgument
  | _, [] => []
  | free, (name, a) :: rest =>
    match a.kind with
    | some kind => ⟨name, a.type, kind⟩ :: settle route mayClaim free rest
    | none =>
      if route.hasParam name then ⟨name, a.type, .path⟩ :: settle route mayClaim free rest
      else if free && mayClaim name then ⟨name, a.type, .body⟩ :: settle route mayClaim false rest
      else ⟨name, a.type, .query⟩ :: settle route mayClaim free rest

/-- The arguments with every kind settled. A placeholder of the path is a path argument; on
`POST` and `PUT` the first argument that may claim the body does, unless one is declared as
body; all others are query arguments. If an argument is called `body` or `request`, only
such an argument may claim the body. -/
def resolve (route : Route) (args : List (String × Argument)) :
    Except Error (List ResolvedArgument) :=
  let stray := args.filter fun (name, a) => a.kind == some .path && !route.hasParam name
  let bodies := args.filter fun (_, a) => a.kind == some .body
  if !stray.isEmpty then
    .error (.route (.strayArguments route.render (sort (stray.map (·.1)))))
  else if bodies.length > 1 then .error (.argument .severalBodies)
  else
    let hasNamed := bodyNames.any fun n => args.any fun (name, _) => name == n
    let mayClaim := fun name => !hasNamed || bodyNames.contains name
    let free := bodies.isEmpty && (route.method == "POST" || route.method == "PUT")
    .ok (settle route mayClaim free args)

/-- The arguments of an endpoint with every kind settled. -/
def resolveArguments (e : Endpoint) : Except Error (List ResolvedArgument) :=
  resolve e.route e.argumentList

/-- Calls need credentials, given the authentication of the service. The endpoint's own
declaration takes precedence. -/
def requiresAuth (e : Endpoint) (service : Option Auth) : Bool :=
  (e.auth.or service).any Auth.isRequired

/-- The authentication in force: the endpoint's own or else the service's, and none if that
switches authentication off. -/
def effectiveAuth (e : Endpoint) (service : Option Auth) : Option Auth :=
  if e.requiresAuth service then e.auth.or service else none

end Endpoint

end ApiCompiler
