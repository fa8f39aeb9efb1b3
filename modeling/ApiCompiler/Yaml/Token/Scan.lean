import ApiCompiler.Yaml.Token.Property

/-!
# The tokens of a document

Cutting a text into tokens, one at a time and only as many as are asked for. Indentation is
turned into the beginnings and ends of block collections, and a key token is placed in front of
a simple key once the colon behind it is seen. Two tokens behind the next one are always read,
and so is everything up to the place where it is decided whether the next one begins a key.
-/

namespace ApiCompiler.Yaml

/-- A place where a key without indicator may have begun: the number of its first token and
where it stands. A required key begins a line at the indentation of its block. -/
structure KeyCandidate where
  possible : Bool
  required : Bool
  token : Nat
  position : Position
deriving Repr

namespace KeyCandidate

/-- No candidate, at the beginning of a text. -/
def none : KeyCandidate := ⟨false, false, 0, ⟨0, 0, 0⟩⟩

/-- A candidate as seen from a later place: a key stands on one line and is not longer than 1024
characters. A required one cannot be given up. -/
def seenFrom (k : KeyCandidate) (here : Position) : Option KeyCandidate :=
  if k.possible && (k.position.line < here.line || k.position.index + 1024 < here.index) then
    if k.required then Option.none else some { k with possible := false }
  else some k

end KeyCandidate

/-- The state between two tokens. -/
structure Scan where
  cursor : Cursor
  /-- All tokens so far. -/
  tokens : Array Token
  /-- How many of the tokens are used up. -/
  used : Nat
  /-- One more than the column of the innermost block collection; zero outside of all. -/
  indent : Nat
  /-- The indentations of the block collections around it. -/
  indents : List Nat
  /-- How many flow collections are open. -/
  flowLevel : Nat
  /-- The candidates of the open flow collections, the innermost first; the last one belongs to
  the block context. -/
  candidates : List KeyCandidate
  /-- The flow levels of candidates by the numbers of their tokens. -/
  levels : List (Nat × Nat)
  /-- A simple key may begin here. -/
  keyAllowed : Bool

namespace Scan

/-- The beginning of a document. -/
def start (text : String) : Scan where
  cursor := Cursor.start text
  tokens := #[⟨.streamStart, 0, 0⟩]
  used := 1
  indent := 0
  indents := []
  flowLevel := 0
  candidates := [KeyCandidate.none]
  levels := []
  keyAllowed := true

/-- How deep collections can be nested. -/
def maxDepth : Nat := 10000

/-- Inside a flow collection. -/
def inFlow (s : Scan) : Bool := s.flowLevel > 0

/-- Adds a token that begins at a given cursor and ends at the current one. -/
def push (s : Scan) (kind : TokenKind) (begin : Cursor) : Scan :=
  { s with tokens := s.tokens.push ⟨kind, begin.position.line, s.cursor.position.line⟩ }

/-- Inserts a token in front of the token with a given number, or at the end if that one is
used up. -/
def insert (s : Scan) (number : Nat) (kind : TokenKind) (line : Nat) : Scan :=
  let t : Token := ⟨kind, line, line⟩
  { s with
    tokens := if s.used ≤ number then s.tokens.insertIdxIfInBounds number t else s.tokens.push t }

/-- Forgets the level of the candidate with a token number. -/
def forget (s : Scan) (number : Nat) : Scan :=
  { s with levels := s.levels.eraseP (·.1 == number) }

/-- Replaces the candidate of the current level. -/
def setCandidate (s : Scan) (k : KeyCandidate) : Scan :=
  { s with candidates := k :: s.candidates.tail }

/-- Gives up the candidate of the current level. A required one cannot be given up. -/
def dropCandidate (s : Scan) : Option Scan :=
  match s.candidates with
  | k :: _ =>
    if !k.possible then some s
    else if k.required then none
    else some ((s.setCandidate { k with possible := false }).forget k.token)
  | [] => some s

/-- Notes that a simple key may begin here. -/
def noteCandidate (s : Scan) : Option Scan :=
  if s.keyAllowed then do
    let required := !s.inFlow && s.indent == s.cursor.column + 1
    let k : KeyCandidate := ⟨true, required, s.tokens.size, s.cursor.position⟩
    let s ← s.dropCandidate
    return { s.setCandidate k with levels := (k.token, s.flowLevel) :: s.levels }
  else some s

/-- Begins a block collection at a column, if it is deeper than the current one. The token
goes in front of token number `number`. -/
def openBlock (s : Scan) (column number : Nat) (kind : TokenKind) (line : Nat) : Option Scan :=
  if s.inFlow || column + 1 ≤ s.indent then some s
  else if s.indents.length ≥ maxDepth then none
  else some
    { s.insert number kind line with indent := column + 1, indents := s.indent :: s.indents }

/-- Ends the block collections that are deeper than an indentation. -/
def closeBlocks (limit line : Nat) : Nat → List Nat → Scan → Scan
  | indent, indents, s =>
    if s.inFlow || indent ≤ limit then { s with indent := indent, indents := indents }
    else
      let closed := { s with tokens := s.tokens.push ⟨.blockEnd, line, line⟩ }
      match indents with
      | outer :: rest => closeBlocks limit line outer rest closed
      | [] => { closed with indent := 0, indents := [] }

/-- Ends the block collections that are deeper than an indentation. -/
def close (s : Scan) (limit line : Nat) : Scan := closeBlocks limit line s.indent s.indents s

/-- How far white space goes from a place on, within a number of characters, and whether a
comment follows. -/
def commentAhead : Nat → Nat → Cursor → List Char → Option (Option Nat)
  | 0, _, _, _ => some none
  | room + 1, passed, c, cs =>
    if !c.has (passed + 1) then none
    else
      match cs with
      | [] => some none
      | d :: rest =>
        if isBlank d || d == '\n' || d == '\r' then commentAhead room (passed + 1) c rest
        else some (if d == '#' then some passed else none)

/-- Behind a number of characters, which may be line breaks. -/
def pass : Nat → Nat → Cursor → Cursor
  | 0, _, c => c
  | fuel + 1, index, c =>
    if c.position.index ≥ index then c
    else if startsBreak c.rest then pass fuel index c.nextLine
    else pass fuel index (c.advance 1)

/-- Skips a comment, and the blank lines and comments that follow it, to the end of a line. -/
def skipComments : Nat → Cursor → Option Cursor
  | 0, c => some c
  | fuel + 1, c => do
    let c ← c.skipLineRest?
    let ahead := if c.peek?.any (·.utf8Size > 1) then [] else c.rest.drop 1
    match ← commentAhead 511 1 c ahead with
    | some passed => skipComments fuel (pass passed (c.position.index + passed) c)
    | none => return c

/-- Skips white space and comments before a token. Outside flow collections tabs count as
white space only where no simple key may begin. -/
def skipSpace : Nat → Scan → Option Scan
  | 0, s => some s
  | fuel + 1, s => do
    guard (s.cursor.has 1)
    let swallowed := s.cursor.column == 0 && s.cursor.position.index < s.cursor.swallowing
    let c := if swallowed then s.cursor.advance 1 else s.cursor
    let c ← c.skipWhile? fun d => d == ' ' || ((s.inFlow || !s.keyAllowed) && d == '\t')
    let c ← if c.peek? == some '#' then skipComments c.left c else some c
    match c.rest with
    | d :: _ =>
      if isBreak d then
        skipSpace fuel { s with cursor := ← c.nextLine?, keyAllowed := s.keyAllowed || !s.inFlow }
      else return { s with cursor := c }
    | [] => return { s with cursor := c }

/-- Skips a comment on the line of the token that was just read. It may begin up to 511 blanks
behind it. -/
def skipLineComment (s : Scan) : Option Scan := do
  let blanks := ((s.cursor.rest.take 512).takeWhile isBlank).length
  if blanks = 512 then return s
  guard (s.cursor.has (blanks + 1))
  let ahead := s.cursor.advance blanks
  if ahead.peek? == some '#' then return { s with cursor := ← ahead.skipLineRest? } else return s

/-- A token of `width` characters. -/
def take (s : Scan) (width : Nat) (kind : TokenKind) : Scan :=
  { s with cursor := s.cursor.advance width }.push kind s.cursor

/-- The end of the text ends everything that is open. -/
def endStream (s : Scan) : Option Scan := do
  let c := s.cursor
  let c := if c.column == 0 then c else
    { c with position := ⟨c.position.line + 1, 0, c.position.index⟩ }
  let s ← ({ s with cursor := c }.close 0 c.position.line).dropCandidate
  return { s with keyAllowed := false }.push .streamEnd s.cursor

/-- A directive. -/
def directive (s : Scan) : Option Scan := do
  let s ← (s.close 0 s.cursor.position.line).dropCandidate
  let (kind, c) ← readDirective (s.cursor.advance 1)
  return { s with cursor := c, keyAllowed := false }.push kind s.cursor

/-- The beginning or the end of a document. -/
def documentMark (s : Scan) (kind : TokenKind) : Option Scan := do
  let s ← (s.close 0 s.cursor.position.line).dropCandidate
  return { s with keyAllowed := false }.take 3 kind

/-- The beginning of a flow collection. -/
def openFlow (s : Scan) (kind : TokenKind) : Option Scan := do
  let s ← s.noteCandidate
  let k : KeyCandidate := ⟨false, false, s.tokens.size, s.cursor.position⟩
  guard (s.flowLevel < maxDepth)
  return { s with
    candidates := k :: s.candidates, flowLevel := s.flowLevel + 1, keyAllowed := true }.take 1 kind

/-- The end of a flow collection. -/
def closeFlow (s : Scan) (kind : TokenKind) : Option Scan := do
  let s ← s.dropCandidate
  let s := match s.candidates with
    | k :: outer :: rest =>
      { s.forget k.token with candidates := outer :: rest, flowLevel := s.flowLevel - 1 }
    | _ => s
  return { s with keyAllowed := false }.take 1 kind

/-- A comma between the entries of a flow collection. -/
def flowEntry (s : Scan) : Option Scan := do
  let s ← s.dropCandidate
  return { s with keyAllowed := true }.take 1 .flowEntry

/-- Begins a block collection at the cursor. -/
def openHere (s : Scan) (kind : TokenKind) : Option Scan :=
  s.openBlock s.cursor.column s.tokens.size kind s.cursor.position.line

/-- A dash before an entry of a block sequence. -/
def blockEntry (s : Scan) : Option Scan := do
  guard (s.inFlow || s.keyAllowed)
  let s ← s.openHere .blockSequenceStart
  let s ← s.dropCandidate
  return { s with keyAllowed := true }.take 1 .blockEntry

/-- A question mark before a key. -/
def explicitKey (s : Scan) : Option Scan := do
  guard (s.inFlow || s.keyAllowed)
  let s ← s.openHere .blockMappingStart
  let s ← s.dropCandidate
  return { s with keyAllowed := !s.inFlow }.take 1 .key

/-- A colon before a value: behind a simple key, or behind a key with an indicator. -/
def value (s : Scan) : Option Scan := do
  let k ← (s.candidates.headD KeyCandidate.none).seenFrom s.cursor.position
  if k.possible then
    let line := k.position.line
    let s := s.insert k.token .key line
    let s ← s.openBlock k.position.column k.token .blockMappingStart line
    let s := (s.setCandidate { k with possible := false }).forget k.token
    return { s with keyAllowed := false }.take 1 .value
  else
    let s := s.setCandidate k
    guard (s.inFlow || s.keyAllowed)
    let s ← s.openHere .blockMappingStart
    return { s with keyAllowed := !s.inFlow }.take 1 .value

/-- An anchor or an alias. -/
def anchor (s : Scan) (kind : String → TokenKind) : Option Scan := do
  let s ← s.noteCandidate
  let (name, c) ← readAnchorName (s.cursor.advance 1)
  return { s with cursor := c, keyAllowed := false }.push (kind name) s.cursor

/-- A tag. -/
def tag (s : Scan) : Option Scan := do
  let s ← s.noteCandidate
  let ((handle, suffix), c) ← readTag s.cursor
  return { s with cursor := c, keyAllowed := false }.push (.tag handle suffix) s.cursor

/-- A block scalar. -/
def blockScalar (s : Scan) (literal : Bool) : Option Scan := do
  let s ← s.dropCandidate
  let (text, c) ← readBlock literal s.indent (s.cursor.advance 1)
  return { s with cursor := c, keyAllowed := true }.push
    (.scalar (String.ofList text) .quoted) s.cursor

/-- A scalar in quotes. -/
def quotedScalar (s : Scan) (single : Bool) : Option Scan := do
  let s ← s.noteCandidate
  let (text, c) ← readQuoted single (s.cursor.advance 1)
  return { s with cursor := c, keyAllowed := false }.push
    (.scalar (String.ofList text) .quoted) s.cursor

/-- A plain scalar, and whether a line break followed it. -/
def plainScalar (s : Scan) : Option (Scan × Bool) := do
  let s ← s.noteCandidate
  let (text, broken, c) ← readPlain s.inFlow s.indent s.cursor
  return ({ s with cursor := c, keyAllowed := broken }.push
    (.scalar (String.ofList text) .plain) s.cursor, broken)

/-- The indicators that cannot begin a plain scalar. -/
def indicators : List Char :=
  ['-', '?', ':', ',', '[', ']', '\x7b', '\x7d', '#', '&', '*', '!', '|', '>', '\'', '"', '%',
    '@', '`']

/-- A plain scalar may begin with this text. -/
def beginsPlain (s : Scan) : List Char → Bool
  | [] => false
  | c :: rest =>
    (!isBlank c && !isBreak c && !indicators.contains c) ||
      (c == '-' && !(rest.head?.any isBlank)) ||
      (!s.inFlow && (c == '?' || c == ':') && !startsBlank rest)

/-- The next token at a character that begins one, and whether a comment may follow it on
its line. -/
def token (s : Scan) : Option (Scan × Bool) :=
  let rest := s.cursor.rest.tail
  let plainly (r : Option Scan) : Option (Scan × Bool) := r.map fun s => (s, true)
  match s.cursor.peek? with
  | none => none
  | some c =>
    if c == '[' then plainly (s.openFlow .flowSequenceStart)
    else if c == '\x7b' then plainly (s.openFlow .flowMappingStart)
    else if c == ']' then plainly (s.closeFlow .flowSequenceEnd)
    else if c == '\x7d' then plainly (s.closeFlow .flowMappingEnd)
    else if c == ',' then plainly s.flowEntry
    else if c == '-' && startsBlank rest then s.blockEntry.map fun s => (s, false)
    else if c == '?' && (s.inFlow || startsBlank rest) then plainly s.explicitKey
    else if c == ':' && (s.inFlow || startsBlank rest) then plainly s.value
    else if c == '*' then plainly (s.anchor .aliasOf)
    else if c == '&' then plainly (s.anchor .anchor)
    else if c == '!' then plainly s.tag
    else if c == '|' && !s.inFlow then (s.blockScalar true).map fun s => (s, false)
    else if c == '>' && !s.inFlow then (s.blockScalar false).map fun s => (s, false)
    else if c == '\'' then plainly (s.quotedScalar true)
    else if c == '"' then plainly (s.quotedScalar false)
    else if s.beginsPlain s.cursor.rest then
      s.plainScalar.map fun (s, broken) => (s, !broken)
    else none

/-- Skips to the next token and reads it. -/
def step (s : Scan) : Option Scan := do
  let line := s.cursor.position.line
  let s ← skipSpace (s.cursor.left + 1) s
  let s := s.close (s.cursor.column + 1) line
  guard (s.cursor.has 4)
  if s.cursor.rest.isEmpty then s.endStream
  else if s.cursor.column == 0 && s.cursor.peek? == some '%' then s.directive
  else if s.cursor.atDocumentMark then
    s.documentMark (if s.cursor.peek? == some '-' then .documentStart else .documentEnd)
  else
    let (s, comment) ← s.token
    if comment then s.skipLineComment else return s

/-- The next token may still turn out to begin a key. -/
def headMayBeKey (s : Scan) : Option (Scan × Bool) :=
  match s.levels.lookup s.used with
  | none => some (s, false)
  | some level => do
    let place := s.flowLevel - level
    let k ← s.candidates[place]?
    let k ← k.seenFrom s.cursor.position
    return ({ s with candidates := s.candidates.set place k }, k.possible)

/-- Reads tokens until the next one is settled. -/
def settle : Nat → Scan → Option Scan
  | 0, _ => none
  | fuel + 1, s => do
    if s.used + 3 ≤ s.tokens.size then
      let (s, open_) ← s.headMayBeKey
      if open_ then settle fuel (← s.step) else return s
    else settle fuel (← s.step)

/-- The next token, which is left in place. -/
def peek (s : Scan) : Option (Token × Scan) := do
  let s ← settle (s.cursor.left + 8) s
  return (← s.tokens[s.used]?, s)

/-- Uses up the next token. -/
def skip (s : Scan) : Scan := { s with used := s.used + 1 }

end Scan

end ApiCompiler.Yaml
