import ApiCompiler.Error
import ApiCompiler.OrderedMap

/-!
# Routes

A route is a method and a path with placeholders, written `GET /users/{id}` or
`GET /files/{rest:path}`. It is kept as literal runs and parameters in order, so that its
text is exactly the text it was read from.
-/

namespace ApiCompiler

open Text

/-- A placeholder of a path. The hint, empty if there is none, asks for special matching. -/
structure PathParam where
  name : String
  hint : String
deriving DecidableEq, Repr

namespace PathParam

/-- A placeholder as written. -/
def render (p : PathParam) : String :=
  if p.hint = "" then "\x7b" ++ p.name ++ "\x7d" else "\x7b" ++ p.name ++ ":" ++ p.hint ++ "\x7d"

end PathParam

/-- A piece of a path. -/
inductive PathPart where
  | literal (text : String)
  | param (p : PathParam)
deriving DecidableEq, Repr

namespace PathPart

/-- A piece as written. -/
def render : PathPart → String
  | literal text => text
  | param p => p.render

/-- The placeholder, if the piece is one. -/
def param? : PathPart → Option PathParam
  | literal _ => none
  | param p => some p

end PathPart

/-- A method and a path with placeholders. -/
structure Route where
  method : String
  parts : List PathPart
deriving DecidableEq, Repr

namespace Route

/-- The methods a route may have. -/
def methods : List String := ["GET", "POST", "PUT", "DELETE", "OPTIONS", "HEAD"]

/-- The route of an endpoint that declares none. -/
def unset : Route := ⟨"", []⟩

/-- The path without the method. -/
def path (r : Route) : String := String.join (r.parts.map PathPart.render)

/-- A route as written. -/
def render (r : Route) : String := r.method ++ " " ++ r.path

/-- A route that was never given. -/
def isUnset (r : Route) : Bool := r.method == "" && r.parts.isEmpty

/-- The placeholders in order. -/
def params (r : Route) : List PathParam := r.parts.filterMap PathPart.param?

/-- The hint of every placeholder, by name. -/
def parameters (r : Route) : OrderedMap String := .ofList (r.params.map fun p => (p.name, p.hint))

/-- A name is a placeholder of the path. -/
def hasParam (r : Route) (name : String) : Bool := r.params.any (·.name == name)

/-- An ASCII letter, with which names of placeholders begin. -/
def isNameStart (c : Char) : Bool := c.isAlpha

/-- A character inside the name of a placeholder. -/
def isNameChar (c : Char) : Bool := c.isAlphanum || c == '_'

/-- A name at the beginning of a text, and what follows it. -/
def readName : List Char → Option (List Char × List Char)
  | [] => none
  | c :: rest =>
    if isNameStart c then some (c :: rest.takeWhile isNameChar, rest.dropWhile isNameChar)
    else none

/-- A placeholder at the beginning of a text. -/
def placeholder? : List Char → Option PathParam
  | '\x7b' :: rest =>
    match readName rest with
    | some (name, '\x7d' :: _) => some ⟨String.ofList name, ""⟩
    | some (name, ':' :: rest) =>
      match readName rest with
      | some (hint, '\x7d' :: _) => some ⟨String.ofList name, String.ofList hint⟩
      | _ => none
    | _ => none
  | _ => none

/-- Puts a character in front of the first literal run. -/
def ontoLiteral (c : Char) : List PathPart → List PathPart
  | .literal text :: parts => .literal (String.ofList (c :: text.toList)) :: parts
  | parts => .literal (String.singleton c) :: parts

/-- The pieces of a path, from the left. `skip` characters belong to a placeholder that was
already read. -/
def partsFrom : Nat → List Char → List PathPart
  | _, [] => []
  | skip + 1, _ :: rest => partsFrom skip rest
  | 0, c :: rest =>
    match placeholder? (c :: rest) with
    | some p => .param p :: partsFrom (p.render.length - 1) rest
    | none => ontoLiteral c (partsFrom 0 rest)

/-- The pieces of a path. -/
def partsOf (path : String) : List PathPart := partsFrom 0 path.toList

/-- The first name that already occurred before it. -/
def firstRepeated : List String → List String → Option String
  | _, [] => none
  | seen, name :: rest =>
    if seen.contains name then some name else firstRepeated (name :: seen) rest

/-- Reads a route. The result is checked to be written as the text it was read from. -/
def parse (s : String) : Except Error Route :=
  match cut ' ' s with
  | none =>
    if s.toList.head? = some '/' then .error (.route (.missingMethod s))
    else .error (.route (.missingPath s))
  | some (method, path) =>
    if !methods.contains method then .error (.route (.unknownMethod method s))
    else if path.toList.head? ≠ some '/' then .error (.route (.noLeadingSlash path))
    else
      let route : Route := ⟨method, partsOf path⟩
      match firstRepeated [] (route.params.map (·.name)) with
      | some name => .error (.route (.repeatedParameter name s))
      | none => if route.render = s then .ok route else .error (.unfaithfulRoute route.render s)

end Route

end ApiCompiler
