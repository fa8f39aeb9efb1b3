import ApiCompiler.Declaration
import ApiCompiler.Endpoint

/-!
# Modules

The definition of one service: its types, errors and endpoints, and the authentication that
its endpoints require by default. A name may be declared without a definition; validation
reports it.
-/

namespace ApiCompiler

open Text

/-- The definition of a service. -/
structure Module where
  name : String
  docs : RawText
  auth : Option Auth
  types : Option (OrderedMap (Option TypeDecl))
  errors : Option (OrderedMap (Option ErrorDecl))
  endpoints : Option (OrderedMap (Option Endpoint))
deriving Repr, BEq

namespace Module

/-- The module that declares nothing. -/
def empty : Module := ⟨"", "", none, none, none, none⟩

instance : Inhabited Module := ⟨empty⟩

/-- The entries of a group of declarations that have a definition. -/
def defined {V : Type} (declarations : Option (OrderedMap (Option V))) : List (String × V) :=
  (OrderedMap.entriesOf declarations).filterMap fun (name, d) => d.map fun d => (name, d)

/-- The types with a definition, in order. -/
def typeList (m : Module) : List (String × TypeDecl) := defined m.types

/-- The errors with a definition, in order. -/
def errorList (m : Module) : List (String × ErrorDecl) := defined m.errors

/-- The endpoints with a definition, in order. -/
def endpointList (m : Module) : List (String × Endpoint) := defined m.endpoints

/-- The documentation of a module and of everything in it. -/
def documentation (m : Module) : List RawText :=
  m.docs :: (m.typeList.flatMap (·.2.documentation) ++ m.errorList.flatMap (·.2.documentation) ++
    m.endpointList.map (·.2.docs))

theorem docs_mem_documentation {m : Module} {e : String × Endpoint} (mem : e ∈ m.endpointList) :
    e.2.docs ∈ m.documentation :=
  List.mem_cons_of_mem _ (List.mem_append_right _ (List.mem_map_of_mem mem))

/-- A type is declared. -/
def hasType (m : Module) (name : String) : Bool := m.types.any (·.contains name)

/-- An error is declared. -/
def hasError (m : Module) (name : String) : Bool := m.errors.any (·.contains name)

/-- The definition of a type. -/
def type? (m : Module) (name : String) : Option TypeDecl :=
  m.types.bind fun types => (types.get? name).join

/-- The definition of an endpoint. -/
def endpoint? (m : Module) (name : String) : Option Endpoint :=
  m.endpoints.bind fun endpoints => (endpoints.get? name).join

/-- The methods that a declaration of authentication may name. -/
def authRule : String := "must be one of: oauth2_bearer basic none"

/-- The authentication names a known method. -/
def checkAuth (a : Auth) : Except Error Unit :=
  match a.method with
  | .other "" => .error (.config (.unmetRules [("type", "required")]))
  | .other _ => .error (.config (.unmetRules [("type", authRule)]))
  | _ => a.validate

/-- The authentication, if there is one, names a known method. -/
def checkAuth? (label : String) : Option Auth → Except Error Unit
  | some a => labelled label (checkAuth a)
  | none => .ok ()

/-- A text that a declaration has to give. -/
def requireText (key value : String) : Except Error Unit :=
  if value == "" then .error (.config (.unmetRules [(key, "required")])) else .ok ()

/-- Every field has a type. -/
def checkFields (fields : Option (OrderedMap Field)) : Except Error Unit :=
  (OrderedMap.entriesOf fields).forM fun (name, f) =>
    labelled ("field " ++ name) (requireText "type" f.type)

/-- Every value of an enumeration has a name. -/
def checkValues (values : List EnumValue) : Except Error Unit :=
  let unnamed := values.filter (·.name == "")
  if unnamed.isEmpty then .ok ()
  else .error (.config (.unmetRules (unnamed.map fun _ => ("name", "required"))))

/-- The checks of a type that need no other declaration. -/
def checkType (name : String) (t : TypeDecl) : Except Error Unit := do
  let label := "type " ++ name
  labelled label (checkValues (t.values.getD []))
  labelled label (checkFields t.fields)
  t.validate (if name == "" then none else some name)
  if t.extends_ == some "" then .error (.config (.emptyExtends name))

/-- The checks of an error. -/
def checkError (e : ErrorDecl) : Except Error Unit := do
  e.validate
  checkFields e.fields

/-- The checks of an argument of an endpoint. -/
def checkArgument (endpoint name : String) : Option Argument → Except Error Unit
  | none => .error (.argument (.untyped endpoint name))
  | some a => labelled (argumentLabel endpoint name) do
    a.validate
    requireText "type" a.type

/-- A route that an endpoint has to give. -/
def requireRoute (name : String) (route : Route) : Except Error Unit :=
  if route.isUnset then .error (.route (.undeclared name)) else .ok ()

/-- The checks of an endpoint. -/
def checkEndpoint (name : String) (e : Endpoint) : Except Error Unit := do
  requireRoute name e.route
  checkAuth? s!"endpoint {name}: auth" e.auth
  (OrderedMap.entriesOf e.arguments).forM fun (argument, a) => checkArgument name argument a
  let _ ← labelled ("endpoint " ++ name) e.resolveArguments

/-- Checks every declaration of a group, each of which needs a definition. -/
def checkAll {V : Type} (noun : String) (check : String → V → Except Error Unit)
    (declarations : Option (OrderedMap (Option V))) : Except Error Unit :=
  (OrderedMap.entriesOf declarations).forM fun (name, d) =>
    match d with
    | none => .error (.config (.missingDefinition (noun ++ " " ++ name)))
    | some d => check name d

/-- Everything that can be checked without resolving references to types. The first fault in
the order of declaration is reported. -/
def validate (m : Module) : Except Error Unit := do
  checkAuth? "auth" m.auth
  checkAll "type" checkType m.types
  checkAll "error" (fun name e => labelled ("error " ++ name) (checkError e)) m.errors
  checkAll "endpoint" checkEndpoint m.endpoints

/-- The authentication in force for an endpoint of the module. -/
def endpointAuth (m : Module) (e : Endpoint) : Option Auth := e.effectiveAuth m.auth

end Module

end ApiCompiler
