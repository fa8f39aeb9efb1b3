import ApiCompiler.Text.Blank
import ApiCompiler.Text.Letter
import ApiCompiler.Text.Split

/-!
# Build constraints

A comment may say for which systems a file is built. There are two notations: `//go:build` with
an expression, and `// +build` with alternatives between blanks, each of them terms between
commas. Several lines of the second kind hold together.
-/

namespace ApiCompiler.Go

open Text

/-- A build constraint. -/
inductive Constraint where
  | tag (name : String)
  | not (inner : Constraint)
  | and (left right : Constraint)
  | or (left right : Constraint)
deriving DecidableEq, Repr

namespace Constraint

/-- A text in parentheses. -/
def inParens (s : String) : String := "(" ++ s ++ ")"

/-- The text of a constraint. Parentheses stand where two different operators meet. -/
def text : Constraint → String
  | tag name => name
  | not inner =>
    "!" ++ match inner with
      | and .. | or .. => inParens inner.text
      | _ => inner.text
  | and left right => argument left.text left ++ " && " ++ argument right.text right
  | or left right => alternative left.text left ++ " || " ++ alternative right.text right
where
  /-- The text of an operand of a conjunction. -/
  argument (s : String) : Constraint → String
    | or .. => inParens s
    | _ => s
  /-- The text of an operand of a disjunction. -/
  alternative (s : String) : Constraint → String
    | and .. => inParens s
    | _ => s

/-- A constraint, or its negation, with negations in front of tags only. -/
def pushed (isNegated : Bool) : Constraint → Constraint
  | tag name => if isNegated then not (tag name) else tag name
  | not inner => inner.pushed (!isNegated)
  | and left right =>
    let (left, right) := (left.pushed isNegated, right.pushed isNegated)
    if isNegated then or left right else and left right
  | or left right =>
    let (left, right) := (left.pushed isNegated, right.pushed isNegated)
    if isNegated then and left right else or left right

/-- The parts of a conjunction. -/
def conjuncts : Constraint → List Constraint
  | and left right => left.conjuncts ++ right.conjuncts
  | c => [c]

/-- The parts of a disjunction. -/
def disjuncts : Constraint → List Constraint
  | or left right => left.disjuncts ++ right.disjuncts
  | c => [c]

/-- A tag or the negation of one. -/
def isTerm : Constraint → Bool
  | tag _ => true
  | not _ => true
  | _ => false

/-- A constraint as lines of alternatives of terms, if it has that form. -/
def lines? (c : Constraint) : Option (List (List (List Constraint))) :=
  (c.pushed false).conjuncts.mapM fun line =>
    line.disjuncts.mapM fun alternative =>
      let terms := alternative.conjuncts
      if terms.all isTerm then some terms else none

/-- Lines of one alternative each are one line. -/
def joinedLines (lines : List (List (List Constraint))) : List (List (List Constraint)) :=
  if lines.all (·.length ≤ 1) then [[lines.flatMap (·.headD [])]] else lines

/-- The comment of a line of alternatives. -/
def plusLine (alternatives : List (List Constraint)) : String :=
  "// +build" ++ String.join (alternatives.map fun terms =>
    " " ++ joinWith "," (terms.map text))

/-- The comments of the older notation. -/
def plusLines (c : Constraint) : List String :=
  match c.lines? with
  | some lines => (joinedLines lines).map plusLine
  | none => ["// +build error: expression too complex for // +build lines"]

/-- The characters of a tag. -/
def isTagChar (c : Char) : Bool := isLetter c || isDigit c || c == '_' || c == '.'

/-- A term of the older notation. What is no term stands for a tag that is never set. -/
def ofTerm (term : List Char) : Constraint :=
  let ofTag := fun (name : List Char) =>
    if !name.isEmpty && name.all isTagChar then tag (String.ofList name) else tag "ignore"
  match term with
  | '!' :: rest => if rest.isEmpty || rest.head? == some '!' then tag "ignore" else not (ofTag rest)
  | _ => ofTag term

/-- Constraints joined from the left. -/
def joined (join : Constraint → Constraint → Constraint) : List Constraint → Option Constraint
  | [] => none
  | first :: rest => some (rest.foldl join first)

/-- An alternative of the older notation. -/
def ofAlternative (cs : List Char) : Constraint :=
  (joined and ((splitAt ',' cs).map ofTerm)).getD (tag "ignore")

/-- A line of the older notation behind its mark. It has at most a hundred operators. -/
def ofPlus? (cs : List Char) : Option Constraint :=
  let alternatives := runs isBlank cs
  let operators := alternatives.foldl (fun n a => n + a.count ',') (alternatives.length - 1)
  if 100 < operators then none
  else some ((joined or (alternatives.map ofAlternative)).getD (tag "ignore"))

/-- The tokens of the newer notation. -/
inductive Word where
  | tag (name : String)
  | mark (text : String)
deriving DecidableEq

/-- The tokens of an expression. -/
def words? : Nat → List Char → Option (List Word)
  | 0, _ => none
  | fuel + 1, cs =>
    match cs.dropWhile fun c => c == ' ' || c == '\t' with
    | [] => some []
    | '&' :: '&' :: rest => (words? fuel rest).map (.mark "&&" :: ·)
    | '|' :: '|' :: rest => (words? fuel rest).map (.mark "||" :: ·)
    | c :: rest =>
      if c == '(' || c == ')' || c == '!' then
        (words? fuel rest).map (.mark (String.ofList [c]) :: ·)
      else
        let (name, rest) := (c :: rest).span isTagChar
        if name.isEmpty then none
        else (words? fuel rest).map (.tag (String.ofList name) :: ·)

/-- A constraint at the beginning of a list of tokens, and what follows it. -/
abbrev Reader := List Word → Option (Constraint × List Word)

/-- Operands with an operator between them, joined from the left. -/
def chainFrom (operator : String) (join : Constraint → Constraint → Constraint)
    (operand : Reader) : Nat → Constraint → Reader
  | 0, _, _ => none
  | fuel + 1, left, words =>
    match words with
    | .mark m :: rest =>
      if m == operator then do
        let (right, rest) ← operand rest
        chainFrom operator join operand fuel (join left right) rest
      else some (left, words)
    | _ => some (left, words)

/-- Operands with an operator between them. -/
def chain (operator : String) (join : Constraint → Constraint → Constraint) (operand : Reader) :
    Reader := fun words => do
  let (left, rest) ← operand words
  chainFrom operator join operand (words.length + 1) left rest

/-- An operand: a tag, or an expression in parentheses. -/
def atom (expression : Reader) : Reader
  | .tag name :: rest => some (tag name, rest)
  | .mark "(" :: rest => do
    match ← expression rest with
    | (c, .mark ")" :: rest) => some (c, rest)
    | _ => none
  | _ => none

/-- An operand that may be negated once. -/
def negated (expression : Reader) : Reader
  | .mark "!" :: rest => do
    let (c, rest) ← atom expression rest
    return (not c, rest)
  | words => atom expression words

/-- An expression of a bounded nesting. -/
def expression : Nat → Reader
  | 0 => fun _ => none
  | fuel + 1 => chain "||" or (chain "&&" and (negated (expression fuel)))

/-- An expression of the newer notation. It has at most a thousand operands. -/
def ofExpression? (cs : List Char) : Option Constraint := do
  let words ← words? (cs.length + 1) cs
  if 1000 < words.countP (fun w => w == .mark "(" || w matches .tag _) then none
  match ← expression (words.length + 1) words with
  | (c, []) => some c
  | _ => none

/-- What follows a mark and white space; nothing may follow, but no other character. -/
def afterMark? (mark : String) (cs : List Char) : Option (List Char) :=
  match afterStart mark.toList cs with
  | some rest => if rest.head?.all isBlank then some (trimBy isBlank rest) else none
  | none => none

/-- The expression of a comment of the newer notation. -/
def goExpression? (comment : String) : Option (List Char) :=
  match dropStart? "//go:build" comment with
  | some _ => afterMark? "//go:build" (dropEnd isBlank comment.toList)
  | none => none

/-- The alternatives of a comment of the older notation. -/
def plusExpression? (comment : String) : Option (List Char) :=
  match afterStart ['/', '/'] comment.toList with
  | some rest => afterMark? "+build" (trimBy isBlank rest)
  | none => none

/-- The constraint of a comment. -/
def ofComment? (comment : String) : Option Constraint :=
  match goExpression? comment with
  | some cs => ofExpression? cs
  | none => (plusExpression? comment).bind ofPlus?

end Constraint

end ApiCompiler.Go
