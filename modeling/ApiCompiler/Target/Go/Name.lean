import ApiCompiler.Casing
import ApiCompiler.Path
import ApiCompiler.Text.Letter
import ApiCompiler.Text.Printable

/-!
# Names in Go

Identifiers made from the names of definitions, the names of packages, and which texts Go
accepts as identifiers and import paths.
-/

namespace ApiCompiler.Go

open Text

/-- The reserved words. -/
def keywords : List String :=
  ["break", "case", "chan", "const", "continue", "default", "defer", "else", "fallthrough", "for",
   "func", "go", "goto", "if", "import", "interface", "map", "package", "range", "return",
   "select", "struct", "switch", "type", "var"]

/-- The words that identifiers write in capitals. -/
def initialisms : List String :=
  ["API", "ASCII", "CPU", "CSS", "DNS", "EOF", "HTML", "HTTP", "HTTPS", "ID", "IP", "JSON", "RPC",
   "SQL", "TCP", "TLS", "TTL", "UI", "URI", "URL", "UUID", "XML"]

/-- The names that a parameter must not shadow. -/
def predeclared : List String :=
  ["ctx", "auth", "any", "error", "string", "bool", "int", "len", "cap", "new", "make", "nil",
   "true", "false"]

/-- A word inside an exported identifier. -/
def exportedWord (word : List Char) : List Char :=
  let upper := word.map toUpper
  if initialisms.contains (String.ofList upper) then upper else Casing.capitalize word

/-- The exported identifier of words. It begins with a letter. -/
def exportedOf (words : List (List Char)) : List Char :=
  let name := words.flatMap exportedWord
  match name with
  | c :: _ => if isLetter c then name else 'X' :: name
  | [] => ['X']

/-- The exported identifier of a name: `list_id` becomes `ListID`. -/
def exported (name : String) : String :=
  String.ofList (exportedOf (Casing.nameWords name.toList))

/-- The identifier of a parameter: `list_id` becomes `listID`, and a reserved or predeclared word
gets an underscore. -/
def unexported (name : String) : String :=
  match Casing.nameWords name.toList with
  | [] => "_"
  | first :: rest =>
    let tail := if rest.isEmpty then [] else exportedOf rest
    let id := String.ofList (first.map toLower ++ tail)
    if keywords.contains id || predeclared.contains id then id ++ "_" else id

/-- The constant of a value of an enumeration. -/
def enumConstant (type value : String) : String := type ++ exported (lowerCase value)

/-- The name of the package of a module: its letters and digits. -/
def packageName (module : String) : String :=
  let kept := (lowerCase module).toList.filter fun c => isLetter c || isDigit c
  let name := String.ofList kept
  if kept.isEmpty || kept.head?.any isDigit || keywords.contains name then "api" ++ name else name

/-- The import path of the package of a module below a path. -/
def importPath (base module : String) : String := Path.join [base, packageName module]

/-- A character that begins identifiers. -/
def isIdentifierStart (c : Char) : Bool := c == '_' || isLetter c

/-- A character inside identifiers. -/
def isIdentifierChar (c : Char) : Bool := isIdentifierStart c || isDigit c

/-- An identifier that is no reserved word. -/
def isIdentifier (s : String) : Bool :=
  !keywords.contains s &&
    match s.toList with
    | [] => false
    | c :: rest => isIdentifierStart c && rest.all isIdentifierChar

/-- The printable characters that an import path cannot hold. -/
def badPathChars : List Char :=
  ['!', '"', '#', '$', '%', '&', '\'', '(', ')', '*', ',', ':', ';', '<', '=', '>', '?', '[', '\\',
   ']', '^', '\x7b', '|', '\x7d', '`', '\uFFFD']

/-- A text that can be an import path. -/
def isImportPath (path : String) : Bool :=
  path != "" && path.toList.all fun c =>
    isPrintable c && c != ' ' && !badPathChars.contains c

end ApiCompiler.Go
