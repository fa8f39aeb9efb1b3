import ApiCompiler.Text.Blank
import ApiCompiler.Text.Case

/-!
# Naming conventions

Conversion of names between `PascalCase`, `camelCase` and `snake_case`.
-/

namespace ApiCompiler.Casing

open Text

/-- The characters that separate the words of a name. -/
def isSeparator (c : Char) : Bool :=
  c == '_' || c == '-' || c == '.' || c == ' '

/-- The words of a name, without separators. -/
def nameWords (name : List Char) : List (List Char) :=
  runs isSeparator name

/-- A word with its first letter in upper case and the rest as written. -/
def capitalize : List Char → List Char
  | [] => []
  | c :: rest => toUpper c :: rest

/-- A word with its first letter in lower case and the rest as written. -/
def uncapitalize : List Char → List Char
  | [] => []
  | c :: rest => toLower c :: rest

/-- The words of a name, each capitalized, without separators: `get_HTTPPath` becomes
`GetHTTPPath`. -/
def pascal (name : String) : String :=
  String.ofList ((nameWords name.toList).flatMap capitalize)

/-- Like `pascal`, with the first letter in lower case. -/
def camel (name : String) : String :=
  String.ofList (uncapitalize ((nameWords name.toList).flatMap capitalize))

/-- The characters that one character of a name becomes in `snake_case`, given its
neighbours. A run of capitals is one word, so a word begins at a capital after something
else, and at the last capital of a run before a lower-case letter. -/
def snakeChar (previous : Option Char) (c : Char) (next : Option Char) : List Char :=
  if isSeparator c then ['_']
  else
    match previous with
    | some p =>
      if isUpper c && !isSeparator p && (!isUpper p || next.any isLower) then ['_', toLower c]
      else [toLower c]
    | none => [toLower c]

/-- The `snake_case` form of the characters after `previous`. -/
def snakeFrom (previous : Option Char) : List Char → List Char
  | [] => []
  | c :: rest => snakeChar previous c rest.head? ++ snakeFrom (some c) rest

/-- Separators become underscores, and words of a `PascalCase` name are divided:
`HTTPSConnection` becomes `https_connection`. -/
def snake (name : String) : String :=
  String.ofList (snakeFrom none name.toList)

end ApiCompiler.Casing
