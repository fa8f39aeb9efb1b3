import ApiCompiler.Target.Go.Name

/-!
# Tokens of Go

The tokens of a source text, and the comments between them. A statement may end without a
written semicolon, at the end of a line, so semicolons are of two kinds.
-/

namespace ApiCompiler.Go

/-- The kinds of tokens. -/
inductive TokenKind where
  | name
  | int
  | float
  | imaginary
  | char
  | string
  | comment
  | mark (text : String)
  | keyword (text : String)
  | semicolon (isWritten : Bool)
  | finish
deriving DecidableEq, Repr

namespace TokenKind

/-- A token of which the end of a line may end the statement. -/
def endsStatement : TokenKind → Bool
  | name | int | float | imaginary | char | string => true
  | mark text => [")", "]", "\x7d", "++", "--"].contains text
  | keyword text => ["break", "continue", "fallthrough", "return"].contains text
  | _ => false

/-- A token that is a literal. -/
def isLiteral : TokenKind → Bool
  | int | float | imaginary | char | string => true
  | _ => false

/-- A semicolon of either kind. -/
def isSemicolon : TokenKind → Bool
  | semicolon _ => true
  | _ => false

end TokenKind

/-- The operators and delimiters; no text stands behind a beginning of it. -/
def marks : List String :=
  ["<<=", ">>=", "&^=", "...", "&&", "||", "<-", "++", "--", "==", "!=", "<=", ">=", ":=", "+=",
   "-=", "*=", "/=", "%=", "&=", "|=", "^=", "<<", ">>", "&^", "+", "-", "*", "/", "%", "&", "|",
   "^", "<", ">", "=", "!", "(", ")", "[", "]", "\x7b", "\x7d", ",", ".", ":", "~"]

/-- How tightly a binary operator binds; zero for what is no binary operator. -/
def precedence (operator : String) : Nat :=
  if operator == "||" then 1
  else if operator == "&&" then 2
  else if ["==", "!=", "<", "<=", ">", ">="].contains operator then 3
  else if ["+", "-", "|", "^"].contains operator then 4
  else if ["*", "/", "%", "<<", ">>", "&", "&^"].contains operator then 5
  else 0

/-- The operators of assignments. -/
def assignments : List String :=
  [":=", "=", "+=", "-=", "*=", "/=", "%=", "&=", "|=", "^=", "<<=", ">>=", "&^="]

/-- A comment with its marks, and where it begins. -/
structure Comment where
  start : Nat
  text : String
deriving Repr, Inhabited

namespace Comment

/-- A comment up to the end of its line. -/
def isLine (c : Comment) : Bool := Text.hasStart "//" c.text

/-- The offset behind a comment. -/
def stop (c : Comment) : Nat := c.start + c.text.utf8ByteSize

end Comment

/-- Comments without anything between them. -/
abbrev Comments := List Comment

namespace Comments

/-- The offset of the first comment. -/
def start (g : Comments) : Nat := (g.head?.map (·.start)).getD 0

/-- The offset behind the last comment. -/
def stop (g : Comments) : Nat := (g.getLast?.map (·.stop)).getD 0

end Comments

/-- A piece of a text: a token or a comment. -/
structure Lexeme where
  kind : TokenKind
  text : String
  start : Nat
  stop : Nat
deriving Repr

/-- A token with the comments that belong to it: those on the lines directly above it, and
those behind the token before it on the same line. -/
structure Token extends Lexeme where
  lead : Option Comments
  remark : Option Comments
deriving Repr

end ApiCompiler.Go
