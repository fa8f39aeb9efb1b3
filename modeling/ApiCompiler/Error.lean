import ApiCompiler.Text.Blank
import ApiCompiler.Text.Quoted
import ApiCompiler.Text.Split

/-!
# Errors

Every failure is a value that says what went wrong: a leaf for the cause and, around it, the
labels of the declarations that contain the fault. This file also fixes the wording of each
cause, the class of failures it belongs to, and the hints for the user.

* `Error.message` is the complete text;
* `Error.isA` says whether an error belongs to a class;
* `Error.hints` lists the hints, the innermost first and each once.
-/

namespace ApiCompiler

open Text

/-- The classes of failures that callers tell apart. -/
inductive ErrorClass where
  | badTypeFormat
  | arity
  | unresolvedType
  | exclusive
  | badPath
  | argument
  | duplicateModule
  | invalidConfig
  | invalidPath
  | cancelled
  | missingFile
deriving DecidableEq, Repr

namespace ErrorClass

/-- The name of a class in messages. -/
def text : ErrorClass → String
  | badTypeFormat => "bad type format"
  | arity => "wrong number of type parameters"
  | unresolvedType => "unresolved type"
  | exclusive => "mutually exclusive type shapes"
  | badPath => "bad http path"
  | argument => "bad endpoint argument"
  | duplicateModule => "duplicate module"
  | invalidConfig => "invalid configuration"
  | invalidPath => "invalid output path"
  | cancelled => "context canceled"
  | missingFile => "file does not exist"

/-- The classes of faults in a definition. -/
def definitionClasses : List ErrorClass :=
  [badTypeFormat, arity, unresolvedType, exclusive, badPath, argument, duplicateModule,
    invalidConfig]

end ErrorClass

/-- What is wrong with a type reference. -/
inductive DatatypeFlaw where
  | closingWithoutOpening
  | emptyName
  | trailingText
  | emptyParameter
  | unbalanced
deriving DecidableEq, Repr

namespace DatatypeFlaw

/-- The reason as messages give it. -/
def text : DatatypeFlaw → String
  | closingWithoutOpening => "closing bracket without opening bracket"
  | emptyName => "empty type name"
  | trailingText => "unexpected characters after closing bracket"
  | emptyParameter => "empty type parameter"
  | unbalanced => "unbalanced brackets"

end DatatypeFlaw

/-- What is wrong with a route, or with an endpoint's use of it. -/
inductive RouteFlaw where
  | missingMethod (route : String)
  | missingPath (route : String)
  | unknownMethod (method route : String)
  | noLeadingSlash (path : String)
  | repeatedParameter (name route : String)
  /-- Arguments declared as path parameters that the path does not have. -/
  | strayArguments (route : String) (names : List String)
  | undeclared (endpoint : String)
deriving DecidableEq, Repr

namespace RouteFlaw

/-- The fault in words. -/
def text : RouteFlaw → String
  | missingMethod route => s!"missing HTTP method: {quote route}"
  | missingPath route => s!"missing HTTP path: {quote route}"
  | unknownMethod method route => s!"invalid HTTP method {quote method} in {quote route}"
  | noLeadingSlash path => s!"path needs to begin with a slash, got {quote path}"
  | repeatedParameter name route => s!"duplicate path parameter {quote name} in {quote route}"
  | strayArguments route names =>
    s!"some parameters in {route} marked as path parameters but do not appear in the path: " ++
      joinWith ", " names
  | undeclared endpoint => s!"endpoint {endpoint}: missing http"

end RouteFlaw

/-- What is wrong with an argument of an endpoint. -/
inductive ArgumentFlaw where
  | unknownKind (kind : String)
  | authKind
  | severalBodies
  | untyped (endpoint argument : String)
  | reservedName (endpoint name : String)
  | shadowsBuiltin (argument endpoint : String)
  | repeated (name : String)
  | foreignAuthKind (name : String)
  | missingCredentials (argument route : String)
deriving DecidableEq, Repr

namespace ArgumentFlaw

/-- The fault in words. -/
def text : ArgumentFlaw → String
  | unknownKind kind => s!"unknown parameter kind {quote kind}"
  | authKind => "argument kind cannot be \"auth\""
  | severalBodies => "endpoint cannot have multiple body parameters"
  | untyped endpoint argument => s!"endpoint {endpoint}: argument {argument} has no type"
  | reservedName endpoint name =>
    s!"endpoint {endpoint}: argument name {quote name} is reserved"
  | shadowsBuiltin argument endpoint =>
    s!"argument name {quote argument} on endpoint {quote endpoint} collides with built-in"
  | repeated name => s!"duplicate argument {quote name}"
  | foreignAuthKind name => s!"argument {quote name} cannot have kind auth"
  | missingCredentials argument route =>
    s!"missing {quote argument} parameter in endpoint {route}"

/-- The advice that goes with the fault. -/
def hint? : ArgumentFlaw → Option String
  | authKind => some ("the auth argument is generated automatically when the endpoint or its " ++
      "service declares auth")
  | missingCredentials _ _ => some ("endpoints that require authentication receive the " ++
      "caller's credentials as their first argument")
  | _ => none

end ArgumentFlaw

/-- What is wrong with a definition file or with the configuration of a run. -/
inductive ConfigFlaw where
  | missingDefinition (declaration : String)
  /-- Keys that break their rule, each with the rule. -/
  | unmetRules (rules : List (String × String))
  | headerNotAccepted (method : String)
  | unknownAuth (method : String)
  | emptyExtends (type : String)
  | unknownErrorCode (code : String)
  | repeatedEndpoint (service endpoint : String)
  | unsupportedExtension (path extension : String)
  | missingTemplates (names : List String)
  | noDestination
  | unknownScope (key scope : String) (known : List String)
  | badOptions (target problem : String)
  | malformedOption (text : String)
  | unknownTarget (name : String) (known : List String)
  | importPathRequired
  | importCycle (modules : List String)
  | mixedLayouts
  | noLayout
  | notInstallable
  | badModuleName (name : String)
  | noFiles
deriving DecidableEq, Repr

namespace ConfigFlaw

/-- The list of targets in a hint. -/
def validTargets (known : List String) : String :=
  "valid targets: [" ++ joinWith " " known ++ "]"

/-- The fault in words. -/
def text : ConfigFlaw → String
  | missingDefinition declaration => s!"{declaration}: missing definition"
  | unmetRules rules => joinWith "; " (rules.map fun (key, rule) => s!"{key}: {rule}")
  | headerNotAccepted method => s!"auth type {quote method} does not accept header_name"
  | unknownAuth method => s!"unknown auth type {quote method}"
  | emptyExtends type => s!"type {type}: extends must name a type"
  | unknownErrorCode code => s!"unknown error code {quote code}"
  | repeatedEndpoint service endpoint => s!"service {service}: duplicate endpoint {endpoint}"
  | unsupportedExtension path extension =>
    s!"{path}: unsupported file extension {quote extension}"
  | missingTemplates names => "missing templates for builtin types: " ++ joinWith ", " names
  | noDestination => "OutDir or Sink is required"
  | unknownScope key scope _ => s!"option {quote key} is scoped to unknown target {quote scope}"
  | badOptions target problem => s!"{target} options: {problem}"
  | malformedOption text => s!"option {quote text} is not of the form key=value"
  | unknownTarget name _ => s!"unknown target {quote name}"
  | importPathRequired => "go: import_path is required"
  | importCycle modules => "go: import cycle between modules " ++ joinWith " -> " modules
  | mixedLayouts => "python: module and package cannot be mixed"
  | noLayout => "python: one of module or package must be specified"
  | notInstallable => "python: dist_name, version and description require installable"
  | badModuleName name => s!"python: {quote name} is not a valid dotted module name"
  | noFiles => "no definition files"

/-- The advice that goes with the fault. -/
def hint? : ConfigFlaw → Option String
  | unsupportedExtension _ _ => some "module files must end in .yaml, .yml or .json"
  | unknownScope _ _ known => some (validTargets known)
  | unknownTarget _ known => some (validTargets known)
  | badOptions target _ =>
    some s!"prefix an option with its target to scope it, e.g. --opt {target}.indent=4"
  | importPathRequired => some "pass --opt import_path=example.com/your/api"
  | importCycle _ =>
    some "Go packages cannot import each other; move the shared types into one module"
  | noLayout => some "pass --opt module=NAME or --opt package=NAME"
  | _ => none

end ConfigFlaw

/-- What is wrong with the path of an output file. -/
inductive OutputPathFlaw where
  | empty
  | absolute (path : String)
  | traversal (path : String)
  | unclean (clean path : String)
  | escapesRoot (path : String)
deriving DecidableEq, Repr

namespace OutputPathFlaw

/-- The fault in words. -/
def text : OutputPathFlaw → String
  | empty => "path is empty"
  | absolute path => s!"absolute paths not allowed: {quote path}"
  | traversal path => s!"path traversal not allowed: {quote path}"
  | unclean clean path => s!"path is not clean (expected {quote clean}, got {quote path})"
  | escapesRoot path => s!"{quote path} escapes root directory"

end OutputPathFlaw

/-- A label or a reason with question marks for the two angle quotes. -/
def shielded (text : String) : String :=
  String.ofList (text.toList.map fun c => if c = '‹' || c = '›' then '?' else c)

/-- What is wrong with a YAML document, or with its fit to what is read from it. -/
inductive YamlFlaw where
  | malformed
  /-- Values of the wrong type, repeated keys and unknown keys, one line each. -/
  | mismatches (lines : List String)
  | notMapping (line : Nat) (kind : String)
  | repeatedKey (line : Nat) (key : String)
deriving DecidableEq, Repr

namespace YamlFlaw

/-- The fault in words. -/
def text : YamlFlaw → String
  | malformed => "<yaml syntax error>"
  | mismatches lines => "yaml: unmarshal errors:\n  " ++ joinWith "\n  " lines
  | notMapping line kind => s!"line {line}: expected a mapping, got {kind}"
  | repeatedKey line key => shielded s!"line {line}: duplicate key {quote key}"

end YamlFlaw

/-- A failed step on the disk: the operation, its paths and the reason. -/
structure DiskFailure where
  operation : String
  paths : List String
  reason : String
deriving DecidableEq, Repr

namespace DiskFailure

/-- The failure in words. -/
def text (f : DiskFailure) : String :=
  joinWith " " (f.operation :: f.paths) ++ ": " ++ f.reason

end DiskFailure

/-- A failure of the compiler. -/
inductive Error where
  | datatype (reference : String) (flaw : DatatypeFlaw)
  | arity (type : String) (expected actual : Nat)
  | unresolved (type : String)
  | parametrised (type : String)
  | exclusive (type : Option String) (first second : List String)
  | route (flaw : RouteFlaw)
  /-- A route that is not written as the text it was read from. -/
  | unfaithfulRoute (written text : String)
  | argument (flaw : ArgumentFlaw)
  | duplicateModule (name : String)
  | config (flaw : ConfigFlaw)
  | outputPath (flaw : OutputPathFlaw)
  | yaml (flaw : YamlFlaw)
  | unknownModule (name : String)
  | noBearerToken
  | noBasicCredentials
  | watchWithoutFiles
  | cancelled
  | missingFile (failure : DiskFailure)
  | disk (failure : DiskFailure)
  | fileExists (path : String)
  | streamFull
  | usage (text : String)
  | unformattable
  | unencodable
  | failed (text : String)
  /-- The failure inside a labelled declaration or step. -/
  | within (label : String) (cause : Error)
  /-- The failure with a class that its cause does not have by itself. -/
  | classified (as : ErrorClass) (cause : Error)
deriving DecidableEq, Repr

namespace Error

/-- A part of a message behind another one: runs of line breaks count as one, and those at the
end are dropped. -/
def flattened (text : String) : String :=
  let rec squeeze : List Char → List Char
    | [] => []
    | c :: rest =>
      if c = '\n' then
        match rest with
        | [] => []
        | d :: _ => if d = '\n' then squeeze rest else c :: squeeze rest
      else c :: squeeze rest
  String.ofList (squeeze text.toList)

/-- The cause of an error in words, without labels and without the name of its class. -/
def reason : Error → String
  | datatype reference flaw => s!"bad type string {quote reference}: {flaw.text}"
  | arity type expected actual =>
    s!"type {type} requires {expected} parameter(s) but got {actual}"
  | unresolved type => s!"type {type} does not exist"
  | parametrised type => s!"custom type {type} cannot take type parameters"
  | exclusive type first second =>
    let text := joinWith "+" first ++ " cannot be mixed with " ++ joinWith "+" second
    match type with
    | some name => s!"type {name}: {text}"
    | none => text
  | route flaw => flaw.text
  | unfaithfulRoute written text =>
    s!"http path did not round-trip: {quote written} != {quote text}"
  | argument flaw => flaw.text
  | duplicateModule name => s!"module {quote name} already in project"
  | config flaw => flaw.text
  | outputPath flaw => flaw.text
  | yaml flaw => flaw.text
  | unknownModule name => shielded s!"module {quote name} not in project"
  | noBearerToken => "not a bearer token in credentials"
  | noBasicCredentials => "not a basic auth in credentials"
  | watchWithoutFiles => "watch requires a generator created with FromFiles"
  | cancelled => ErrorClass.cancelled.text
  | missingFile failure => failure.text
  | disk failure => failure.text
  | fileExists path => shielded s!"file already exists: {quote path}"
  | streamFull => "writer full"
  | usage text => text
  | unformattable => "<go syntax error>"
  | unencodable => "<json error>"
  | failed text => text
  | within _ cause => cause.reason
  | classified _ cause => cause.reason

/-- The class whose name follows the reason in messages. -/
def namedClass? : Error → Option ErrorClass
  | parametrised _ => some .unresolvedType
  | route _ => some .badPath
  | argument _ => some .argument
  | duplicateModule _ => some .duplicateModule
  | config _ => some .invalidConfig
  | outputPath _ => some .invalidPath
  | _ => none

/-- The parts of a message from the outside in: labels, the reason, and the name of a class. -/
def parts : Error → List String
  | within label cause => shielded label :: cause.parts
  | classified _ cause => cause.parts
  | e =>
    match e.namedClass? with
    | some kind => [shielded e.reason, kind.text]
    | none => [e.reason]

/-- An error in words behind a label. Empty parts are left out. A fault of a document's shape or
of the disk right behind the label is given as it is. -/
def messageBehind : Error → String
  | yaml flaw => flaw.text
  | missingFile failure => failure.text
  | disk failure => failure.text
  | e => joinWith ": " ((e.parts.map flattened).filter (· != ""))

/-- The complete text of an error. The outermost label is given as it is, unless it is empty. -/
def message : Error → String
  | within label cause =>
    if label == "" then cause.message else shielded label ++ ": " ++ cause.messageBehind
  | classified _ cause => cause.message
  | e => joinWith ": " e.parts

/-- The class of a cause; labels and added classes have none of their own. -/
def ownClass : Error → Option ErrorClass
  | datatype _ _ => some .badTypeFormat
  | arity _ _ _ => some .arity
  | unresolved _ => some .unresolvedType
  | parametrised _ => some .unresolvedType
  | exclusive _ _ _ => some .exclusive
  | route _ => some .badPath
  | argument _ => some .argument
  | duplicateModule _ => some .duplicateModule
  | config _ => some .invalidConfig
  | outputPath _ => some .invalidPath
  | cancelled => some .cancelled
  | missingFile _ => some .missingFile
  | _ => none

/-- An error belongs to a class by its cause, or because the class was added to it. -/
def isA : Error → ErrorClass → Bool
  | within _ cause, kind => cause.isA kind
  | classified as cause, kind => as == kind || cause.isA kind
  | cause, kind => cause.ownClass == some kind

/-- The hints of an error from the inside out, repetitions included. -/
def allHints : Error → List String
  | argument flaw => flaw.hint?.toList
  | config flaw => flaw.hint?.toList
  | within _ cause => cause.allHints
  | classified _ cause => cause.allHints
  | _ => []

/-- The hints of an error, the innermost first and each once. -/
def hints (e : Error) : List String := e.allHints.eraseDups

/-- An error of none of the classes of definition faults becomes an invalid configuration. -/
def orInvalidConfig (e : Error) : Error :=
  if ErrorClass.definitionClasses.any e.isA then e else classified .invalidConfig e

end Error

/-- The label of an argument of an endpoint. -/
def argumentLabel (endpoint argument : String) : String :=
  s!"endpoint {endpoint}: argument {argument}"

/-- The label of the result of an endpoint. -/
def returnLabel (endpoint : String) : String := s!"endpoint {endpoint}: return"

/-- Labels the failure of a computation. -/
def labelled {α : Type} (label : String) : Except Error α → Except Error α
  | .ok a => .ok a
  | .error e => .error (.within label e)

end ApiCompiler
