import ApiCompiler.Text.Blank
import ApiCompiler.Text.Case
import ApiCompiler.Text.Letter
import ApiCompiler.Text.Split

/-!
# The blocks of a documentation text

A documentation text is a sequence of paragraphs, headings, lists and code. Indented lines are
a list or code, all others a paragraph or a heading; code and lists that somebody forgot to indent
are found by what surrounds them. A paragraph of link definitions is no block.
-/

namespace ApiCompiler.Go.DocComment

open Text

/-- A definition of a link: a label in brackets and an address. -/
structure LinkDefinition where
  label : String
  address : String
deriving Repr

/-- An item of a list: its number, empty for a bullet, and its paragraphs. -/
structure Item where
  number : String
  paragraphs : List String
deriving Repr

/-- A block. A list may ask for an empty line in front of it, and for empty lines between its
items. -/
inductive Block where
  | paragraph (text : String)
  | heading (text : String)
  | code (lines : List String)
  | list (isApart isLoose : Bool) (items : List Item)
deriving Repr

/-- A space or a tab. -/
def isIndent (c : Char) : Bool := c == ' ' || c == '\t'

/-- A line that begins with white space. -/
def isIndented (line : String) : Bool := line.toList.head?.any isIndent

/-- The indentation of a line. -/
def indentOf (line : String) : List Char := line.toList.takeWhile isIndent

/-- The longest common beginning of two lists. -/
def commonStart : List Char → List Char → List Char
  | a :: as, b :: bs => if a = b then a :: commonStart as bs else []
  | _, _ => []

/-- Lines without the empty lines at both ends. -/
def withoutOuterBlanks (lines : List String) : List String :=
  ((lines.dropWhile (· == "")).reverse.dropWhile (· == "")).reverse

/-- Lines without their common indentation; lines of white space become empty. -/
def unindented (lines : List String) : List String :=
  match withoutOuterBlanks lines with
  | [] => []
  | first :: rest =>
    let indent := (rest.filter (· != "")).foldl (fun common l => commonStart common (indentOf l))
      (indentOf first)
    withoutOuterBlanks ((first :: rest).map fun l =>
      let l := (afterStart indent l.toList).getD l.toList
      if l.all isBlank then "" else String.ofList l)

/-- The number of a line of a list, empty for a bullet, and what follows it. -/
def listMarker? (line : String) : Option (String × String) :=
  let found := match trimBy isBlank line.toList with
    | [] => none
    | c :: rest =>
      if ['\u2022', '*', '+', '-'].contains c then some ([], rest)
      else
        let (digits, after) := (c :: rest).span fun c => '0' ≤ c && c ≤ '9'
        match after with
        | d :: after =>
          if !digits.isEmpty && (d == '.' || d == ')') then some (digits, after) else none
        | [] => none
  match found with
  | some (number, rest) =>
    if rest.head?.any isIndent && !rest.all isBlank then
      some (String.ofList number, String.ofList rest)
    else none
  | none => none

/-- A line of a list. -/
def isListLine (line : String) : Bool := (listMarker? line).isSome

/-- A heading by its mark. -/
def isMarkedHeading (line : String) : Bool :=
  match line.toList with
  | '#' :: mark :: rest => isIndent mark && !rest.all isBlank
  | _ => false

/-- The characters that a heading without a mark does not have. -/
def badHeadingChars : List Char :=
  [';', ':', '!', '?', '+', '*', '/', '=', '[', ']', '\x7b', '\x7d', '_', '^', '\u00B0', '&',
   '\u00A7', '~', '%', '#', '@', '<', '"', '>', '\\']

/-- An apostrophe stands only in a possessive, and a point only inside a word. -/
def punctuationFits : List Char → Bool
  | [] => true
  | '\'' :: rest =>
    (match rest with
      | ['s'] => true
      | 's' :: ' ' :: _ => true
      | _ => false) && punctuationFits rest
  | '.' :: rest =>
    (match rest with
      | [] => false
      | c :: _ => c != ' ') && punctuationFits rest
  | _ :: rest => punctuationFits rest

/-- A line that reads like a heading: it begins with a capital, ends with a letter or a digit, and
has little punctuation. -/
def readsAsHeading (line : String) : Bool :=
  let cs := trimBy isBlank line.toList
  cs.head?.any (fun c => isLetter c && isUpper c) &&
    cs.getLast?.any (fun c => isLetter c || isDigit c) &&
    !cs.any badHeadingChars.contains && punctuationFits cs

/-- Lines by their number. -/
abbrev Lines := Array String

namespace Lines

/-- A line that is not there is empty. -/
def at_ (lines : Lines) (i : Nat) : String := lines.getD i ""

/-- The line at an index reads like a heading and stands between empty lines, with an unindented
line behind them. -/
def isPlainHeading (lines : Lines) (i : Nat) : Bool :=
  0 < i && lines.at_ (i - 1) == "" && i + 2 < lines.size && lines.at_ (i + 1) == "" &&
    (indentOf (lines.at_ (i + 2))).isEmpty && readsAsHeading (lines.at_ i)

/-- The index behind the lines from `i` that satisfy a condition. -/
def skipWhile (lines : Lines) (condition : Nat → Bool) : Nat → Nat → Nat
  | 0, i => i
  | fuel + 1, i =>
    if i < lines.size && condition i then skipWhile lines condition fuel (i + 1) else i

/-- The index behind the lines from `start` to `stop` without those at the end that satisfy a
condition. -/
def dropWhileBack (lines : Lines) (condition : Nat → Bool) (start : Nat) : Nat → Nat
  | 0 => 0
  | stop + 1 =>
    if start < stop + 1 && condition stop then dropWhileBack lines condition start stop
    else stop + 1

end Lines

/-- What a span of lines is. -/
inductive SpanKind where
  | code
  | list
  | heading
  | plainHeading
  | paragraph
deriving DecidableEq

/-- Lines from `start` up to but not including `stop`. -/
structure LineSpan where
  start : Nat
  stop : Nat
  kind : SpanKind

/-- The index behind the indented lines that begin at `start`. Lines before `forced` count as
indented; lines of a list among them may go on without indentation up to an empty line. -/
def indentedStop (lines : Lines) (forced : Nat) : Nat → Bool → Nat → Nat
  | 0, _, i => i
  | fuel + 1, mayContinue, i =>
    let line := lines.at_ i
    if i < lines.size && (line == "" || i < forced || isIndented line ||
        (mayContinue && isListLine line)) then
      indentedStop lines forced fuel (mayContinue && line != "") (i + 1)
    else i

/-- The span of indented lines that begins at an index. A closing brace behind it belongs to it. -/
def indentedSpan (lines : Lines) (forced start : Nat) : LineSpan :=
  let first := lines.at_ start
  let stop := indentedStop lines forced lines.size (isListLine first && start < forced) (start + 1)
  let stop := lines.dropWhileBack (fun i => lines.at_ i == "") start stop
  let stop := if stop < lines.size && hasStart "\x7d" (lines.at_ stop) then stop + 1 else stop
  ⟨start, stop, if isListLine first then .list else .code⟩

/-- The index behind the unindented lines of a span that begins at an index, and the index up to
which lines count as indented. The last lines may belong to the indented lines behind them. -/
def unindentedStop (lines : Lines) (forced start : Nat) : Nat × Nat :=
  let stop := lines.skipWhile (fun i => lines.at_ i != "" && !isIndented (lines.at_ i)) lines.size
    (start + 1)
  let next := lines.at_ stop
  let last := (lines.at_ (stop - 1)).toList.getLast?
  if stop < lines.size && next != "" && !isListLine next then
    if isListLine (lines.at_ (stop - 1)) then
      (lines.dropWhileBack (fun i => isListLine (lines.at_ i)) start (stop - 1), stop)
    else if last == some '\x7b' || last == some '\\' then (stop - 1, stop)
    else (stop, forced)
  else (stop, forced)

/-- The spans of lines from an index. -/
def spansFrom (lines : Lines) : Nat → Nat → Nat → List LineSpan
  | 0, _, _ => []
  | fuel + 1, forced, i =>
    let start := lines.skipWhile (fun i => lines.at_ i == "") lines.size i
    if lines.size ≤ start then []
    else if start < forced || isIndented (lines.at_ start) then
      let span := indentedSpan lines forced start
      span :: spansFrom lines fuel forced span.stop
    else
      let (stop, forced) := unindentedStop lines forced start
      if stop == start then spansFrom lines fuel forced start
      else
        let kind : SpanKind :=
          if stop == start + 1 && isMarkedHeading (lines.at_ start) then .heading
          else if stop == start + 1 && lines.isPlainHeading start then .plainHeading
          else .paragraph
        ⟨start, stop, kind⟩ :: spansFrom lines fuel forced stop

/-- The schemes of addresses. -/
def schemes : List String := ["file", "ftp", "gopher", "http", "https", "mailto", "nntp"]

/-- What stands before and after the first occurrence of two characters in a row. -/
def cutPair (a b : Char) : List Char → Option (List Char × List Char)
  | [] => none
  | [_] => none
  | c :: d :: rest =>
    if c = a && d = b then some ([], rest)
    else (cutPair a b (d :: rest)).map fun (before, after) => (c :: before, after)

/-- The scheme of an address. -/
def scheme? : List Char → Option (List Char)
  | [] => none
  | c :: rest =>
    if "://".toList.isPrefixOf (c :: rest) then some [] else (scheme? rest).map (c :: ·)

/-- A line that defines a link. -/
def linkDefinition? (line : String) : Option LinkDefinition :=
  match line.toList with
  | '[' :: rest =>
    match cutPair ']' ':' rest with
    | some (label, mark :: address) =>
      if isIndent mark then
        let address := trimBy isBlank address
        if (scheme? address).any fun s => schemes.contains (String.ofList s) then
          some ⟨String.ofList label, String.ofList address⟩
        else none
      else none
    | _ => none
  | _ => none

/-- A paragraph, unless all its lines define links. -/
def paragraphOf (lines : List String) : Option String × List LinkDefinition :=
  match lines.mapM linkDefinition? with
  | some definitions => (none, definitions)
  | none => (some (joinWith "\n" lines), [])

/-- A list under construction: the items that are complete, the latest first, the item at work,
its lines, the latest first, whether an empty line was seen, and the definitions of links. -/
structure ListState where
  items : List Item
  item : Option Item
  lines : List String
  isLoose : Bool
  definitions : List LinkDefinition

namespace ListState

/-- Ends the paragraph at work. -/
def endParagraph (s : ListState) : ListState :=
  match s.item with
  | none => { s with lines := [] }
  | some item =>
    let (text, definitions) := paragraphOf s.lines.reverse
    { s with
      item := some { item with paragraphs := item.paragraphs ++ text.toList }
      lines := []
      definitions := s.definitions ++ definitions }

/-- Ends the item at work. -/
def endItem (s : ListState) : ListState :=
  let s := s.endParagraph
  { s with items := s.item.toList ++ s.items, item := none }

/-- Adds a line to the paragraph at work; an empty line ends it. -/
def addText (s : ListState) (line : String) : ListState :=
  let line := trim line
  if line == "" then { s.endParagraph with isLoose := true }
  else { s with lines := line :: s.lines }

/-- Adds a line. A mark like that of the first line begins an item. -/
def addLine (isNumbered : Bool) (s : ListState) (line : String) : ListState :=
  match listMarker? line with
  | some (number, rest) =>
    if (number != "") == isNumbered then
      { s.endItem with item := some ⟨number, []⟩ }.addText rest
    else s.addText line
  | none => s.addText line

end ListState

/-- A list and the definitions of links in it. -/
def listOf (isApart : Bool) (lines : List String) : Block × List LinkDefinition :=
  let isNumbered := (lines.head?.bind listMarker?).any fun (number, _) => number != ""
  let s := (lines.foldl (ListState.addLine isNumbered) ⟨[], none, [], false, []⟩).endItem
  (.list isApart s.isLoose s.items.reverse, s.definitions)

/-- The block of a span, if it is one, and the definitions of links in it. `before` is the index
behind the span in front. -/
def blockOf (lines : Lines) (before : Nat) (span : LineSpan) :
    Option Block × List LinkDefinition :=
  let own := (lines.extract span.start span.stop).toList
  let first := lines.at_ span.start
  match span.kind with
  | .code => (some (.code (unindented own)), [])
  | .heading => (some (.heading (trim (String.ofList (first.toList.drop 1)))), [])
  | .plainHeading => (some (.heading (trim first)), [])
  | .paragraph =>
    let (text, definitions) := paragraphOf own
    (text.map .paragraph, definitions)
  | .list =>
    let (block, definitions) := listOf (before < span.start) own
    (some block, definitions)

/-- The blocks of spans, and the definitions of links in them. -/
def blocksOf (lines : Lines) : Nat → List LineSpan → List Block × List LinkDefinition
  | _, [] => ([], [])
  | before, span :: rest =>
    let (block, own) := blockOf lines before span
    let (blocks, more) := blocksOf lines span.stop rest
    (block.toList ++ blocks, own ++ more)

/-- The blocks of a text, and the definitions of links in it. -/
def blocks (text : String) : List Block × List LinkDefinition :=
  let lines := (unindented (split '\n' text)).toArray
  blocksOf lines 0 (spansFrom lines (2 * lines.size + 1) 0 0)

end ApiCompiler.Go.DocComment
