import ApiCompiler.Yaml.Token

/-!
# Scalars in a document

The three ways to write a text: plain, between quotes, and as an indented block. Each reader
takes a cursor and gives the text and the cursor behind it, or nothing if the text is
malformed.
-/

namespace ApiCompiler.Yaml

/-- The pieces of a scalar that were read, the latest first. -/
abbrev Pieces := List (List Char)

/-- The text of the pieces. -/
def Pieces.text (pieces : Pieces) : List Char := pieces.reverse.flatten

/-- The characters of a plain scalar up to a blank, or to an indicator that ends it. -/
def plainRun (inFlow : Bool) : List Char → List Char
  | [] => []
  | c :: rest =>
    if isBlank c || isBreak c then []
    else if c == ':' && startsBlank rest then []
    else if inFlow && [',', '?', '[', ']', '\x7b', '\x7d'].contains c then []
    else c :: plainRun inFlow rest

/-- Reads a plain scalar behind some pieces. The result says whether the scalar was followed by a
line break. -/
def readPlainFrom (inFlow : Bool) (indent : Nat) :
    Nat → Pieces → Gap → Cursor → Option (List Char × Bool × Cursor)
  | 0, pieces, gap, c => some (pieces.text, gap.isBroken, c)
  | fuel + 1, pieces, gap, c =>
    if !c.has 4 then none
    else if c.atDocumentMark || c.peek? == some '#' then some (pieces.text, gap.isBroken, c)
    else
      let run := plainRun inFlow c.rest
      let pieces := if run.isEmpty then pieces else run :: gap.text :: pieces
      let gap := if run.isEmpty then gap else Gap.none
      let c := c.advance run.length
      if !c.has 2 then none
      else if c.rest.isEmpty || !startsBlank c.rest then some (pieces.text, gap.isBroken, c)
      else
        match Gap.read (some indent) c.left gap c with
        | none => none
        | some (gap, c) =>
          if !inFlow && c.column < indent then some (pieces.text, gap.isBroken, c)
          else readPlainFrom inFlow indent fuel pieces gap c

/-- Reads a plain scalar. -/
def readPlain (inFlow : Bool) (indent : Nat) (c : Cursor) : Option (List Char × Bool × Cursor) :=
  readPlainFrom inFlow indent (c.left + 1) [] Gap.none c

/-- The characters of a text in single quotes up to a blank or the closing quote, and their
number in the document. -/
def singleRun : List Char → List Char × Nat
  | '\'' :: '\'' :: rest =>
    let (text, count) := singleRun rest
    ('\'' :: text, count + 2)
  | c :: rest =>
    if isBlank c || isBreak c || c == '\'' then ([], 0)
    else
      let (text, count) := singleRun rest
      (c :: text, count + 1)
  | [] => ([], 0)

/-- The value of a hexadecimal digit. -/
def hexValue? (c : Char) : Option Nat :=
  if c.isDigit then some (c.toNat - 0x30)
  else if 'a' ≤ c && c ≤ 'f' then some (c.toNat - 0x57)
  else if 'A' ≤ c && c ≤ 'F' then some (c.toNat - 0x37)
  else none

/-- The number that hexadecimal digits write. -/
def hexNumber? (digits : List Char) : Option Nat :=
  digits.foldlM (fun n c => (hexValue? c).map (n * 16 + ·)) 0

/-- An escape with a code point of a fixed number of digits, read behind its letter. -/
def codePointEscape (width : Nat) (rest : List Char) : Option (List Char × Nat) := do
  let digits := rest.take width
  guard (digits.length == width)
  let n ← hexNumber? digits
  guard (n.isValidChar)
  return ([Char.ofNat n], 2 + width)

/-- An escape in double quotes, read behind its backslash: the text and the number of
characters of the whole escape. -/
def escape? : List Char → Option (List Char × Nat)
  | [] => none
  | c :: rest =>
    match c with
    | '0' => some (['\x00'], 2)
    | 'a' => some (['\x07'], 2)
    | 'b' => some (['\x08'], 2)
    | 't' => some (['\t'], 2)
    | '\t' => some (['\t'], 2)
    | 'n' => some (['\n'], 2)
    | 'v' => some (['\x0b'], 2)
    | 'f' => some (['\x0c'], 2)
    | 'r' => some (['\r'], 2)
    | 'e' => some (['\x1b'], 2)
    | ' ' => some ([' '], 2)
    | '"' => some (['"'], 2)
    | '\'' => some (['\''], 2)
    | '\\' => some (['\\'], 2)
    | 'N' => some (['\u0085'], 2)
    | '_' => some (['\u00a0'], 2)
    | 'L' => some (['\u2028'], 2)
    | 'P' => some (['\u2029'], 2)
    | 'x' => codePointEscape 2 rest
    | 'u' => codePointEscape 4 rest
    | 'U' => codePointEscape 8 rest
    | _ => none

/-- The characters of a text in double quotes up to a blank, the closing quote or an escaped
line break, and their number in the document. -/
def doubleRun : Nat → List Char → Option (List Char × Nat)
  | 0, _ => some ([], 0)
  | _, [] => some ([], 0)
  | fuel + 1, c :: rest =>
    if isBlank c || isBreak c || c == '"' then some ([], 0)
    else if c == '\\' then
      if !rest.isEmpty && startsBreak rest then some ([], 0)
      else do
        let (text, size) ← escape? rest
        let (more, count) ← doubleRun fuel (rest.drop (size - 1))
        return (text ++ more, count + size)
    else do
      let (more, count) ← doubleRun fuel rest
      return (c :: more, count + 1)

/-- Reads a quoted scalar behind its opening quote and some pieces. -/
def readQuotedFrom (single : Bool) : Nat → Pieces → Cursor → Option (List Char × Cursor)
  | 0, _, _ => none
  | fuel + 1, pieces, c =>
    if !c.has 4 || c.atDocumentMark || c.rest.isEmpty then none
    else
      match (if single then some (singleRun c.rest) else doubleRun c.left c.rest) with
      | none => none
      | some (run, count) =>
        let pieces := run :: pieces
        let c := c.advance count
        let (gap, c) := match c.rest with
          | '\\' :: _ => (Gap.folded, (c.advance 1).nextLine)
          | _ => (Gap.none, c)
        if !c.has 2 then none
        else if c.peek? == some (if single then '\'' else '"') && !gap.isBroken then
          some (Pieces.text pieces, c.advance 1)
        else if c.peek? == some (if single then '\'' else '"') then
          some (Pieces.text (gap.text :: pieces), c.advance 1)
        else
          match Gap.read none c.left gap c with
          | none => none
          | some (gap, c) => readQuotedFrom single fuel (gap.text :: pieces) c

/-- Reads a quoted scalar behind its opening quote. -/
def readQuoted (single : Bool) (c : Cursor) : Option (List Char × Cursor) :=
  readQuotedFrom single (c.left + 1) [] c

/-- What happens to the line breaks at the end of a block. -/
inductive Chomping where
  | strip
  | clip
  | keep
deriving DecidableEq, Repr

/-- A chomping indicator. -/
def chomping? (c : Cursor) : Option Chomping :=
  match c.peek? with
  | some '+' => some .keep
  | some '-' => some .strip
  | _ => none

/-- An indentation indicator: a digit other than zero. A zero is refused. -/
def increment? (c : Cursor) : Option (Option Nat) :=
  match c.peek? with
  | some d =>
    if d == '0' then none else if d.isDigit then some (some (d.toNat - 0x30)) else some none
  | none => some none

/-- The indicators behind `|` or `>`, in either order. -/
def blockHeader (c : Cursor) : Option (Chomping × Option Nat × Cursor) := do
  match chomping? c with
  | some chomping =>
    let c := c.advance 1
    match ← increment? c with
    | some n => return (chomping, some n, c.advance 1)
    | none => return (chomping, none, c)
  | none =>
    match ← increment? c with
    | some n =>
      let c := c.advance 1
      match chomping? c with
      | some chomping => return (chomping, some n, c.advance 1)
      | none => return (.clip, some n, c)
    | none => return (.clip, none, c)

/-- Indentation and empty lines before a line of a block: the breaks, the greatest column that
was reached, and the cursor. With no indentation known yet, all spaces count. A tab in the
indentation is refused. -/
def blockBreaks (indent : Option Nat) :
    Nat → List Char → Nat → Cursor → Option (List Char × Nat × Cursor)
  | 0, breaks, widest, c => some (breaks, widest, c)
  | fuel + 1, breaks, widest, c =>
    let spaces := (c.rest.takeWhile (· == ' ')).length
    let c := c.advance (match indent with
      | some n => min spaces (n - c.column)
      | none => spaces)
    let widest := max widest c.column
    if !c.has 1 || (c.peek? == some '\t' && indent.all (c.column < ·)) then none
    else
      match c.rest with
      | d :: _ =>
        if isBreak d then do
          let next ← c.nextLine?
          blockBreaks indent fuel (breaks ++ c.breakText) widest next
        else some (breaks, widest, c)
      | [] => some (breaks, widest, c)

/-- The lines of a block. `lead` is the break that ended the line before, `trail` the breaks of
the empty lines after it, and `wasBlank` says that the line before began with a blank. -/
def blockLines (literal : Bool) (indent : Nat) :
    Nat → Pieces → List Char → List Char → Bool → Cursor →
      Option (List Char × List Char × List Char × Cursor)
  | 0, pieces, lead, trail, _, c => some (pieces.text, lead, trail, c)
  | fuel + 1, pieces, lead, trail, wasBlank, c =>
    if c.column != indent || c.rest.isEmpty then some (pieces.text, lead, trail, c)
    else
      let beginsBlank := c.peek?.any isBlank
      let fold :=
        if !literal && !wasBlank && !beginsBlank && lead.head? == some '\n' then
          if trail.isEmpty then [' '] else []
        else lead
      let before := trail
      let line := c.rest.takeWhile fun d => !isBreak d
      let c := c.advance line.length
      let lead := c.breakText
      if !c.has 2 then none
      else
        match blockBreaks (some indent) (c.left + 1) [] 0 c.nextLine with
        | none => none
        | some (trail, _, c) =>
          blockLines literal indent fuel (line :: before :: fold :: pieces) lead trail beginsBlank c

/-- Reads a block scalar behind its indicator. `parent` is the indentation of the collection
around it, one more than its column and zero outside all collections. -/
def readBlock (literal : Bool) (parent : Nat) (c : Cursor) : Option (List Char × Cursor) := do
  let (chomping, increment, c) ← blockHeader c
  let c ← c.skipBlanks?
  let c ← if c.peek? == some '#' then c.skipLineRest? else some c
  guard (startsBreak c.rest)
  let c ← c.nextLine?
  let fixed := increment.map fun n => (parent - 1) + n
  let (trail, widest, c) ← blockBreaks fixed (c.left + 1) [] 0 c
  let indent := fixed.getD (max (max widest parent) 1)
  let (text, lead, trail, c) ← blockLines literal indent (c.left + 1) [] [] trail false c
  return match chomping with
    | .strip => (text, c)
    | .clip => (text ++ lead, c)
    | .keep => (text ++ lead ++ trail, c)

end ApiCompiler.Yaml
