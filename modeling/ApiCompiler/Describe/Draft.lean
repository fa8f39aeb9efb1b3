import ApiCompiler.Describe.Service

/-!
# Drafts of services

A service under construction. Routes are still texts and kinds of arguments may be open;
`ServiceDraft.build` checks everything and settles the kinds.
-/

namespace ApiCompiler

open Text

/-- The name of the argument that carries credentials. -/
def credentialsArgument : String := "auth"

/-- An endpoint under construction. -/
structure EndpointDraft where
  name : String
  http : String
  args : List ArgumentDescription
  result : Option TypeRef
  auth : List Auth
  docs : RawText
deriving Repr

namespace EndpointDraft

/-- An endpoint at a route, without arguments. -/
def new (name http : String) : EndpointDraft := ⟨name, http, [], none, [], ""⟩

/-- Adds an argument. -/
def addArg (e : EndpointDraft) (a : ArgumentDescription) : EndpointDraft :=
  { e with args := e.args ++ [a] }

/-- Adds a method of authentication for this endpoint only. -/
def addAuth (e : EndpointDraft) (a : Auth) : EndpointDraft := { e with auth := e.auth ++ [a] }

/-- The first argument of another name that claims the kind of credentials. -/
def foreignCredentials? (e : EndpointDraft) : Option String :=
  (e.args.find? fun a => a.name != credentialsArgument && a.kind == some .auth).map (·.name)

/-- The arguments besides credentials, as an endpoint declares them. -/
def declared (e : EndpointDraft) : List (String × Argument) :=
  (e.args.filter (·.name != credentialsArgument)).map fun a =>
    (a.name, ⟨a.type.render, a.kind⟩)

/-- The arguments in the order of a call: credentials first, the others with their kinds. -/
def ordered (e : EndpointDraft) (resolved : List ResolvedArgument) : List ArgumentDescription :=
  let credentials := (e.args.filter (·.name == credentialsArgument)).map fun a =>
    { a with kind := some .auth }
  let others := resolved.map fun r =>
    { (e.args.find? (·.name == r.name)).getD .none with kind := some r.kind }
  credentials ++ others

/-- No argument stands twice. -/
def checkNames (e : EndpointDraft) : Except Error Unit :=
  match Route.firstRepeated [] (e.args.map (·.name)) with
  | some name => .error (.argument (.repeated name))
  | none => .ok ()

/-- Only credentials have their kind. -/
def checkKinds (e : EndpointDraft) : Except Error Unit :=
  match e.foreignCredentials? with
  | some name => .error (.argument (.foreignAuthKind name))
  | none => .ok ()

/-- An endpoint that needs credentials takes them. Its own methods of authentication take
precedence over those of the service. -/
def checkCredentials (e : EndpointDraft) (route : Route) (service : List Auth) :
    Except Error Unit :=
  let effective := if e.auth.isEmpty then service else e.auth
  if effective.any Auth.isRequired && !e.args.any (·.name == credentialsArgument) then
    .error (.argument (.missingCredentials credentialsArgument route.render))
  else .ok ()

/-- Checks an endpoint of a service with given methods of authentication. -/
def build (e : EndpointDraft) (service : List Auth) : Except Error EndpointDescription := do
  let route ← Route.parse e.http
  e.checkNames
  e.checkKinds
  let resolved ← Endpoint.resolve route e.declared
  e.checkCredentials route service
  return ⟨e.name, route, e.ordered resolved, e.result, e.auth, e.docs⟩

end EndpointDraft

/-- A service under construction. -/
structure ServiceDraft where
  name : String
  docs : RawText
  auth : List Auth
  endpoints : List EndpointDraft
deriving Repr

namespace ServiceDraft

/-- A service without endpoints. -/
def new (name : String) : ServiceDraft := ⟨name, "", [], []⟩

/-- Adds a method of authentication for the whole service. One that switches authentication off
adds nothing. -/
def addAuth (s : ServiceDraft) (a : Auth) : ServiceDraft :=
  if a.isRequired then { s with auth := s.auth ++ [a] } else s

/-- Adds an endpoint. -/
def addEndpoint (s : ServiceDraft) (e : EndpointDraft) : ServiceDraft :=
  { s with endpoints := s.endpoints ++ [e] }

/-- Changes the endpoint that was added last. -/
def modifyLast (s : ServiceDraft) (change : EndpointDraft → EndpointDraft) : ServiceDraft :=
  match s.endpoints.reverse with
  | [] => s
  | e :: rest => { s with endpoints := (change e :: rest).reverse }

/-- Builds endpoints in order; a name may stand once. -/
def buildAll (s : ServiceDraft) : List String → List EndpointDraft →
    Except Error (List EndpointDescription)
  | _, [] => .ok []
  | seen, e :: rest => do
    if seen.contains e.name then throw (.config (.repeatedEndpoint s.name e.name))
    let built ← labelled ("endpoint " ++ s.name ++ "." ++ e.name) (e.build s.auth)
    let more ← s.buildAll (e.name :: seen) rest
    return built :: more

/-- The description of a service whose endpoints are all in order. -/
def build (s : ServiceDraft) : Except Error ServiceDescription := do
  return ⟨s.name, s.auth, ← s.buildAll [] s.endpoints, s.docs⟩

end ServiceDraft

end ApiCompiler
