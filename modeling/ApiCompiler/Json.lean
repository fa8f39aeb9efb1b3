import ApiCompiler.Text.Quoted
import ApiCompiler.Text.RawText
import ApiCompiler.Text.Split

/-!
# JSON documents

A JSON value with its object keys in the order of writing, and its two texts: on one line, and
indented by two blanks. Characters that matter to HTML are escaped, so that a document can be
embedded anywhere. A byte that belongs to no character is written as the replacement character.
-/

namespace ApiCompiler

open Text

/-- A JSON value; a number is kept as it is written. -/
inductive Json where
  | null
  | bool (b : Bool)
  | number (text : String)
  | str (s : RawText)
  | arr (items : List Json)
  | obj (entries : List (String × Json))
deriving Inhabited, Repr, BEq

namespace Json

/-- One character inside a string. -/
def escape (c : Char) : List Char :=
  if c = '"' then ['\\', '"']
  else if c = '\\' then ['\\', '\\']
  else if c = '\x08' then ['\\', 'b']
  else if c = '\x0c' then ['\\', 'f']
  else if c = '\n' then ['\\', 'n']
  else if c = '\r' then ['\\', 'r']
  else if c = '\t' then ['\\', 't']
  else if c.toNat < 0x20 || c = '<' || c = '>' || c = '&' || c = '\u2028' || c = '\u2029' then
    '\\' :: 'u' :: hexDigits 4 c.toNat
  else [c]

/-- A byte that belongs to no character, inside a string. -/
def escapedStray : List Char := '\\' :: 'u' :: hexDigits 4 0xFFFD

/-- A string between its quotes. -/
def quoted (s : RawText) : String :=
  String.ofList ('"' :: s.pieces.flatMap (fun piece => piece.elim escapedStray escape) ++ ['"'])

mutual

/-- The text of a value on one line. -/
def compact : Json → String
  | null => "null"
  | bool b => if b then "true" else "false"
  | number text => text
  | str s => quoted s
  | arr items => "[" ++ joinWith "," (compactAll items) ++ "]"
  | obj entries => "\x7b" ++ joinWith "," (compactEntries entries) ++ "\x7d"

/-- The texts of several values. -/
def compactAll : List Json → List String
  | [] => []
  | v :: rest => v.compact :: compactAll rest

/-- The texts of the entries of an object. -/
def compactEntries : List (String × Json) → List String
  | [] => []
  | (k, v) :: rest => (quoted k ++ ":" ++ v.compact) :: compactEntries rest

end

/-- A line break and the indentation of a depth. -/
def newline (depth : Nat) : String := "\n" ++ repeated depth "  "

/-- Items between two brackets, each on lines of its own. -/
def bracketed (opening closing : String) (depth : Nat) (items : List String) : String :=
  if items.isEmpty then opening ++ closing
  else opening ++ newline (depth + 1) ++ joinWith ("," ++ newline (depth + 1)) items ++
    newline depth ++ closing

mutual

/-- The indented text of a value at a depth. -/
def indentedAt (depth : Nat) : Json → String
  | null => "null"
  | bool b => if b then "true" else "false"
  | number text => text
  | str s => quoted s
  | arr items => bracketed "[" "]" depth (indentedAll (depth + 1) items)
  | obj entries => bracketed "\x7b" "\x7d" depth (indentedEntries (depth + 1) entries)

/-- The indented texts of several values. -/
def indentedAll (depth : Nat) : List Json → List String
  | [] => []
  | v :: rest => v.indentedAt depth :: indentedAll depth rest

/-- The indented texts of the entries of an object. -/
def indentedEntries (depth : Nat) : List (String × Json) → List String
  | [] => []
  | (k, v) :: rest => (quoted k ++ ": " ++ v.indentedAt depth) :: indentedEntries depth rest

end

/-- The text of a value over several lines. -/
def indented (v : Json) : String := v.indentedAt 0

/-- An entry with a text, left out if the text is empty. -/
def textEntry (key : String) (s : RawText) : List (String × Json) :=
  if s = .text "" then [] else [(key, .str s)]

/-- An entry with a list, left out if the list is empty. -/
def listEntry (key : String) (items : List Json) : List (String × Json) :=
  if items.isEmpty then [] else [(key, .arr items)]

/-- An entry that may be missing. -/
def optionEntry (key : String) (v : Option Json) : List (String × Json) :=
  match v with
  | some v => [(key, v)]
  | none => []

end Json

end ApiCompiler
