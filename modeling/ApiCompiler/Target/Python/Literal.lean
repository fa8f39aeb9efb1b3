import ApiCompiler.Value

/-!
# Python literals

Plain values as expressions of Python. Values without a literal of their own are written as
quoted text.
-/

namespace ApiCompiler.Python

open Decimal Text

/-- One character of a text in single quotes. -/
def escape (c : Char) : List Char :=
  if c = '\\' then ['\\', '\\']
  else if c = '\'' then ['\\', '\'']
  else if c = '\n' then ['\\', 'n']
  else if c = '\r' then ['\\', 'r']
  else if c = '\t' then ['\\', 't']
  else [c]

/-- A text in single quotes. -/
def quote (s : String) : String :=
  String.ofList ('\'' :: s.toList.flatMap escape ++ ['\''])

/-- The characters that tell a float from an integer. -/
def isFloatMark (c : Char) : Bool := ['.', 'e', 'E', 'n', 'N'].contains c

/-- A float; one that looks like an integer gets a fraction. -/
def floatLiteral (d : Double) : String :=
  let s := Layout.general.text d
  if s.toList.any isFloatMark then s else s ++ ".0"

mutual

/-- A value as an expression. -/
def literal : Value → String
  | .null => "None"
  | .bool b => if b then "True" else "False"
  | .int i => toString i
  | .float d => floatLiteral d
  | .str s => quote s
  | .time t => quote t.displayText
  | .list items => "[" ++ joinWith ", " (literals items) ++ "]"
  | .map entries =>
    "\x7b" ++ joinWith ", " ((Value.sortedEntries (literalEntries entries)).map fun (k, v) =>
      quote k ++ ": " ++ v) ++ "\x7d"
  | .table entries => quote (Value.table entries).display

/-- Several values as expressions. -/
def literals : List Value → List String
  | [] => []
  | v :: rest => literal v :: literals rest

/-- The values of a map as expressions. -/
def literalEntries : List (String × Value) → List (String × String)
  | [] => []
  | (k, v) :: rest => (k, literal v) :: literalEntries rest

end

end ApiCompiler.Python
