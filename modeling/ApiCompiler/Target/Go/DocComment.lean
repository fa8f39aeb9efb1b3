import ApiCompiler.Target.Go.DocComment.Prose
import ApiCompiler.Target.Go.Token

/-!
# Documentation comments

The standard layout of a documentation comment: an empty line between blocks, code indented by a
tab, lists by blanks, the definitions of links at the end, and directives behind everything
else.
-/

namespace ApiCompiler.Go.DocComment

open Text

/-- A list whose items have empty lines between them. -/
def isLooseList (isLoose : Bool) (items : List Item) : Bool :=
  isLoose || items.any fun item => item.paragraphs.length != 1

/-- A block begins behind an empty line. -/
def standsApart : Block → Bool
  | .list isApart isLoose items => isApart || isLooseList isLoose items
  | _ => true

/-- Prose whose lines but for the first are indented by four blanks. -/
def indentedProse (text : String) : String := joinWith "\n    " (split '\n' text)

/-- The paragraphs of an item. Every paragraph ends its line. -/
def itemText (definitions : List LinkDefinition) (item : Item) : String × List Nat :=
  let parts := item.paragraphs.map (prose definitions)
  let mark := if item.number == "" then "  - " else " " ++ item.number ++ ". "
  let texts := parts.map fun (text, _) => indentedProse text ++ "\n"
  (mark ++ joinWith "\n    " texts, parts.flatMap (·.2))

/-- The text of a block, and the numbers of the definitions that it refers to. -/
def blockText (definitions : List LinkDefinition) : Block → String × List Nat
  | .paragraph text =>
    let (text, used) := prose definitions text
    (text ++ "\n", used)
  | .heading text => ("# " ++ text ++ "\n", [])
  | .code lines => (String.join (lines.map fun l => (if l == "" then l else "\t" ++ l) ++ "\n"), [])
  | .list _ isLoose items =>
    let parts := items.map (itemText definitions)
    let gap := if isLooseList isLoose items then "\n" else ""
    (joinWith gap (parts.map (·.1)), parts.flatMap (·.2))

/-- The text of blocks, with an empty line in front of all but the first that stand apart. -/
def blocksText (isFirst : Bool) : List (Block × String) → String
  | [] => ""
  | (block, text) :: rest =>
    (if !isFirst && standsApart block then "\n" else "") ++ text ++ blocksText false rest

/-- A group of definitions, with an empty line in front. -/
def definitionsText (definitions : List LinkDefinition) : String :=
  if definitions.isEmpty then ""
  else "\n" ++ String.join (definitions.map fun d => "[" ++ d.label ++ "]: " ++ d.address ++ "\n")

/-- The standard layout of a documentation text. Definitions of links stand at the end: those
that are used, and then those that are not. -/
def layout (text : String) : String :=
  let (content, definitions) := blocks text
  let texts := content.map (blockText definitions)
  let used := texts.flatMap (·.2)
  let (referred, others) := definitions.zipIdx.partition fun (_, number) => used.contains number
  blocksText true (content.zip (texts.map (·.1))) ++ definitionsText (referred.map (·.1)) ++
    definitionsText (others.map (·.1))

/-- A comment that a tool reads, behind its mark: `//word:word`, or one of three words. -/
def isDirective (text : String) : Bool :=
  ["line ", "extern ", "export "].any (hasStart · text) ||
    let isWord := fun (c : Char) => ('a' ≤ c && c ≤ 'z') || ('0' ≤ c && c ≤ '9')
    match cutAt ':' text.toList with
    | some (before, c :: _) => !before.isEmpty && before.all isWord && isWord c
    | _ => false

/-- Lines without the empty lines at the beginning, and with one empty line for several. -/
def withoutExtraBlanks (isBlankBefore : Bool) : List String → List String
  | [] => []
  | line :: rest =>
    if line == "" && isBlankBefore then withoutExtraBlanks true rest
    else line :: withoutExtraBlanks (line == "") rest

/-- The lines of a comment without its marks; a directive has none. -/
def plainLines (c : Comment) : List String :=
  let content := c.text.toList.drop 2
  if !c.isLine then split '\n' (String.ofList content.dropLast.dropLast)
  else
    match content with
    | ' ' :: rest => split '\n' (String.ofList rest)
    | _ => if isDirective (String.ofList content) then [] else split '\n' (String.ofList content)

/-- A text without the white space at its end. -/
def withoutTrailing (line : String) : String :=
  String.ofList (dropEnd (fun c => isIndent c || c == '\n' || c == '\r') line.toList)

/-- The text of comments without their marks. Every line of it ends with a line break. -/
def plainText (g : Comments) : String :=
  let lines := withoutExtraBlanks true ((g.flatMap plainLines).map withoutTrailing)
  joinWith "\n" (if lines.getLast?.any (· != "") then lines ++ [""] else lines)

/-- Every line behind the first begins with a star. -/
def isStarred (text : String) : Bool :=
  ((split '\n' text).drop 1).all fun line => (line.toList.dropWhile isIndent).head? == some '*'

/-- The line comment of a line of documentation. -/
def commentLine (start : Nat) (line : String) : Comment :=
  ⟨start, if line == "" then "//" else if hasStart "\t" line then "//" ++ line else "// " ++ line⟩

/-- The standard layout of line comments without their marks. -/
def layoutLines (start : Nat) (list : Comments) (lines : List String) : Comments :=
  let (directives, texts) := lines.partition isDirective
  if texts.isEmpty then list
  else
    let text := String.join (texts.map fun l => (dropStart? " " l).getD l ++ "\n")
    let content := (split '\n' (layout text)).dropLast.map (commentLine start)
    let marked := directives.map fun d => (⟨start, "//" ++ d⟩ : Comment)
    content ++ (if marked.isEmpty then [] else ⟨start, "//"⟩ :: marked)

/-- The standard layout of a documentation comment. Comments of both kinds, or several block
comments, stay as they are, and so does a block comment on one line or with stars. -/
def layoutComments (list : Comments) : Comments :=
  match list with
  | [] => []
  | first :: rest =>
    if first.isLine then
      match list.mapM fun c => dropStart? "//" c.text with
      | some lines => layoutLines first.start list lines
      | none => list
    else if !rest.isEmpty || !first.text.toList.contains '\n' || isStarred first.text then list
    else
      let inner := ((first.text.toList.drop 2).dropLast).dropLast
      [⟨first.start, "/*\n" ++ layout (String.ofList inner) ++ "*/"⟩]

end ApiCompiler.Go.DocComment
