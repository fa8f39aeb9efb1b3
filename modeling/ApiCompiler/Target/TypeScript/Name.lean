import ApiCompiler.Text.Letter
import ApiCompiler.Text.Quoted

/-!
# Names in TypeScript

Which names can stand as they are, and how the others are written.
-/

namespace ApiCompiler.TypeScript

open Text

/-- The words that cannot name a parameter. -/
def reservedWords : List String :=
  ["await", "break", "case", "catch", "class", "const", "continue", "debugger", "default",
   "delete", "do", "else", "enum", "export", "extends", "false", "finally", "for", "function",
   "if", "implements", "import", "in", "instanceof", "interface", "let", "new", "null", "package",
   "private", "protected", "public", "return", "static", "super", "switch", "this", "throw",
   "true", "try", "typeof", "var", "void", "while", "with", "yield"]

/-- The name of a parameter: a reserved word gets an underscore at its end. -/
def paramName (name : String) : String :=
  if reservedWords.contains name then name ++ "_" else name

/-- A character inside identifiers. -/
def isIdentifierChar (c : Char) : Bool := isLetter c || isDigit c || c == '_' || c == '$'

/-- A name that can be a property without quotes. It does not begin with an ASCII digit. -/
def isIdentifier (name : String) : Bool :=
  match name.toList with
  | [] => false
  | c :: rest => !c.isDigit && (c :: rest).all isIdentifierChar

/-- The name of a property, in quotes if it needs them. -/
def propertyName (name : String) : String := if isIdentifier name then name else quote name

/-- The name of the constant that describes a type at run time. -/
def descriptorName (type : String) : String := type ++ "_TYPE"

end ApiCompiler.TypeScript
