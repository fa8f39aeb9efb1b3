/-!
# Reading positions

The rest of a document together with the line, the column and the index of its first
character, and the classes of characters that the tokens are made of. A text is loaded in
portions of 512 bytes. A portion with a forbidden character cannot be loaded, which matters only
if a character of it is asked for.
-/

namespace ApiCompiler.Yaml

/-- A place in a document; lines and columns count from zero. -/
structure Position where
  line : Nat
  column : Nat
  index : Nat
deriving DecidableEq, Repr

/-- A space or a tab. -/
def isBlank (c : Char) : Bool := c == ' ' || c == '\t'

/-- A line break. -/
def isBreak (c : Char) : Bool :=
  c == '\n' || c == '\r' || c == '\u0085' || c == '\u2028' || c == '\u2029'

/-- A character of a name: an ASCII letter or digit, `_` or `-`. -/
def isNameChar (c : Char) : Bool := c.isAlphanum || c == '_' || c == '-'

/-- A character that a document may hold. -/
def isAllowed (c : Char) : Bool :=
  let n := c.toNat
  n == 0x9 || n == 0xA || n == 0xD || (0x20 ≤ n && n ≤ 0x7E) || n == 0x85 ||
    (0xA0 ≤ n && n ≤ 0xFFFD) || 0x10000 ≤ n

/-- The beginning of a text is a blank, a line break or the end. -/
def startsBlank : List Char → Bool
  | [] => true
  | c :: _ => isBlank c || isBreak c

/-- The beginning of a text is a line break or the end. -/
def startsBreak : List Char → Bool
  | [] => true
  | c :: _ => isBreak c

/-- The rest of a document and where it begins. -/
structure Cursor where
  rest : List Char
  /-- The number of characters that are left. -/
  left : Nat
  position : Position
  /-- The rest is followed by characters that cannot be loaded. -/
  isCut : Bool
  /-- Lines that begin before this index lose their first character. -/
  swallowing : Nat
deriving Repr

/-- The characters of the first portion and the others: as many as fit into `room` bytes. -/
def cutPortion : Nat → List Char → List Char × List Char
  | _, [] => ([], [])
  | room, c :: rest =>
    if c.utf8Size ≤ room then
      let (portion, others) := cutPortion (room - c.utf8Size) rest
      (c :: portion, others)
    else ([], c :: rest)

/-- The characters that can be loaded, and whether others follow them. -/
def loadable : Nat → Nat → List Char → List Char × Bool
  | 0, _, cs => (cs, false)
  | fuel + 1, room, cs =>
    match cutPortion room cs with
    | ([], _) => ([], !cs.isEmpty)
    | (portion, others) =>
      if portion.all isAllowed then
        let (more, isCut) := loadable fuel 512 others
        (portion ++ more, isCut)
      else ([], true)

namespace Cursor

/-- The beginning of a document. A mark of byte order at its beginning does not count. A second
one makes every line of the first portion lose a character. -/
def start (text : String) : Cursor :=
  let (room, cs) := match text.toList with
    | '\uFEFF' :: rest => (509, rest)
    | cs => (512, cs)
  let swallowing := if cs.head? == some '\uFEFF' then (cutPortion room cs).1.length else 0
  let (cs, isCut) := if cs.all isAllowed then (cs, false) else loadable cs.length room cs
  ⟨cs, cs.length, ⟨0, 0, 0⟩, isCut, swallowing⟩

/-- The next `n` characters can be asked for; those behind the end of the text can. -/
def has (c : Cursor) (n : Nat) : Bool := !c.isCut || n ≤ c.left

/-- The next character. -/
def peek? (c : Cursor) : Option Char := c.rest.head?

/-- The current column. -/
def column (c : Cursor) : Nat := c.position.column

/-- Behind the next `n` characters, which are on one line. -/
def advance (c : Cursor) (n : Nat) : Cursor :=
  { c with
    rest := c.rest.drop n
    left := c.left - n
    position := { c.position with
      column := c.position.column + n, index := c.position.index + n } }

/-- Behind the line break at the cursor, if there is one. -/
def nextLine (c : Cursor) : Cursor :=
  match c.rest with
  | '\r' :: '\n' :: rest =>
    { c with rest, left := c.left - 2, position := ⟨c.position.line + 1, 0, c.position.index + 2⟩ }
  | d :: rest =>
    if isBreak d then
      { c with
        rest, left := c.left - 1, position := ⟨c.position.line + 1, 0, c.position.index + 1⟩ }
    else c
  | [] => c

/-- What the line break at the cursor contributes to a text: the separators of lines and
paragraphs stay, all others are a line feed. -/
def breakText (c : Cursor) : List Char :=
  match c.rest with
  | d :: _ => if d == '\u2028' || d == '\u2029' then [d] else if isBreak d then ['\n'] else []
  | [] => []

/-- Behind a run of characters of a class. The character behind the run is asked for. -/
def skipWhile? (c : Cursor) (p : Char → Bool) : Option Cursor :=
  let c := c.advance (c.rest.takeWhile p).length
  if c.has 1 then some c else none

/-- Behind a run of spaces and tabs. -/
def skipBlanks? (c : Cursor) : Option Cursor := c.skipWhile? isBlank

/-- At the end of the line. -/
def skipLineRest? (c : Cursor) : Option Cursor := c.skipWhile? fun d => !isBreak d

/-- Behind the line break at the cursor, for which two characters are asked. -/
def nextLine? (c : Cursor) : Option Cursor :=
  if startsBreak c.rest && !c.rest.isEmpty then
    if c.has 2 then some c.nextLine else none
  else some c

/-- The three characters that separate documents, alone at the beginning of a line. -/
def atDocumentMark (c : Cursor) : Bool :=
  c.column == 0 &&
    match c.rest with
    | a :: b :: d :: rest =>
      a == b && b == d && (a == '-' || a == '.') && startsBlank rest
    | _ => false

end Cursor

/-- White space between two parts of a scalar: blanks on one line, or line breaks. The first
break counts apart from the others. -/
structure Gap where
  blanks : List Char
  firstBreak : Option (List Char)
  moreBreaks : List Char
deriving Repr

namespace Gap

/-- No white space. -/
def none : Gap := ⟨[], Option.none, []⟩

/-- White space with a line break that leaves nothing behind. -/
def folded : Gap := ⟨[], some [], []⟩

/-- There was a line break. -/
def isBroken (g : Gap) : Bool := g.firstBreak.isSome

/-- The text that the white space stands for: one break becomes a space, several breaks lose
the first. -/
def text (g : Gap) : List Char :=
  match g.firstBreak with
  | Option.none => g.blanks
  | some first =>
    if first == ['\n'] then (if g.moreBreaks.isEmpty then [' '] else g.moreBreaks)
    else first ++ g.moreBreaks

/-- Reads white space. With `tabLimit`, a tab left of that column after a break is refused. -/
def read (tabLimit : Option Nat) : Nat → Gap → Cursor → Option (Gap × Cursor)
  | 0, g, c => some (g, c)
  | fuel + 1, g, c =>
    match c.peek? with
    | Option.none => if c.has 1 then some (g, c) else Option.none
    | some d =>
      if isBlank d then
        if g.isBroken then
          if d == '\t' && tabLimit.any (c.column < ·) then Option.none
          else read tabLimit fuel g (c.advance 1)
        else read tabLimit fuel { g with blanks := g.blanks ++ [d] } (c.advance 1)
      else if isBreak d then
        if !c.has 2 then Option.none
        else if g.isBroken then
          read tabLimit fuel { g with moreBreaks := g.moreBreaks ++ c.breakText } c.nextLine
        else read tabLimit fuel ⟨[], some c.breakText, []⟩ c.nextLine
      else some (g, c)

end Gap

end ApiCompiler.Yaml
