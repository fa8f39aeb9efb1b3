import ApiCompiler.Target.Go.Lines
import ApiCompiler.Target.Go.Token.Literal

/-!
# Reading tokens

A source text as a list of tokens and comments. The end of a line ends a statement if the last
token of the line may end one; a semicolon that is not written stands there. A comment does not
change that, but one that holds a line break ends its line.
-/

namespace ApiCompiler.Go

open Text

/-- The characters of a block comment behind its opening mark, up to its closing mark. -/
def cutBlock : List Char → Option (List Char × List Char)
  | [] => none
  | [_] => none
  | c :: d :: rest =>
    if c = '*' && d = '/' then some (['*', '/'], rest)
    else (cutBlock (d :: rest)).map fun (content, rest) => (c :: content, rest)

/-- A text without carriage returns. -/
def withoutReturns (cs : List Char) : List Char := cs.filter (· != '\r')

/-- A block comment without carriage returns. One between a star and a slash stays, because the
comment would end there without it; `count` is the number of characters that were kept. -/
def blockWithoutReturns (count : Nat) (before : Char) : List Char → List Char
  | [] => []
  | c :: rest =>
    if c == '\r' && !(2 < count && before == '*' && rest.head? == some '/') then
      blockWithoutReturns count before rest
    else c :: blockWithoutReturns (count + 1) c rest

/-- The text in front of the last colon, and the number behind it. -/
def trailingNumber? (cs : List Char) : Option (List Char × Option Nat) :=
  (cutLastAt ':' cs).map fun (before, digits) =>
    let value := digits.foldl (fun n c => n * 10 + digitValue c) 0
    let fits := !digits.isEmpty && digits.all isDecimalDigit && value < Nat.pow 2 64
    (before, if fits then some value else none)

/-- The numbers of lines and columns that a directive can name. Numbers are words of 64 bits, and
those with the highest bit count as negative, so only the ones between are too large. -/
def isLineNumber (n : Nat) : Bool := (0 < n && n ≤ Nat.pow 2 30) || Nat.pow 2 63 ≤ n

/-- What follows the mark of a line directive either is no directive or names a line. -/
def lineDirectiveFits (cs : List Char) : Bool :=
  match trailingNumber? cs with
  | none => true
  | some (_, none) => false
  | some (before, some last) =>
    match trailingNumber? before with
    | some (_, some line) => isLineNumber last && isLineNumber line
    | _ => isLineNumber last

/-- A comment that is a line directive is a proper one. -/
def commentFits (isFirst : Bool) (cs : List Char) : Bool :=
  match cs with
  | '/' :: '/' :: rest =>
    match afterStart "line ".toList rest with
    | some directive =>
      !isFirst || lineDirectiveFits
        (if directive.getLast? == some '\r' then directive.dropLast else directive)
    | none => true
  | '/' :: '*' :: rest =>
    match afterStart "line ".toList rest with
    | some directive => lineDirectiveFits (directive.dropLast.dropLast)
    | none => true
  | _ => true

/-- A comment at the beginning of a list, and what follows it. -/
def cutComment : List Char → Option (List Char × List Char)
  | '/' :: '/' :: rest =>
    let (content, rest) := rest.span (· != '\n')
    some ('/' :: '/' :: content, rest)
  | '/' :: '*' :: rest => (cutBlock rest).map fun (content, rest) => ('/' :: '*' :: content, rest)
  | _ => none

/-- The operator or delimiter at the beginning of a list, and what follows it. -/
def cutMark (cs : List Char) : Option (String × List Char) :=
  marks.findSome? fun m => (afterStart m.toList cs).map fun rest => (m, rest)

/-- The kind of a word. -/
def wordKind (word : String) : TokenKind :=
  if keywords.contains word then .keyword word else .name

/-- The token at the beginning of a list: its kind, its characters, and what follows. -/
def cutToken (cs : List Char) : Option (TokenKind × List Char × List Char) :=
  match cs with
  | [] => none
  | c :: rest =>
    if isIdentifierStart c then
      let (word, rest) := cs.span isIdentifierChar
      some (wordKind (String.ofList word), word, rest)
    else if isDecimalDigit c || (c == '.' && rest.head?.any isDecimalDigit) then cutNumber cs
    else if c == '"' then (cutText '"' rest).map fun (text, rest) => (.string, text, rest)
    else if c == '\'' then (cutText '\'' rest).map fun (text, rest) => (.char, text, rest)
    else if c == '`' then (cutRaw rest).map fun (text, rest) => (.string, text, rest)
    else if c == ';' then some (.semicolon true, [';'], rest)
    else (cutMark cs).map fun (m, rest) => (.mark m, m.toList, rest)

/-- The text of a token. Raw texts are without carriage returns. -/
def tokenText (cs : List Char) : String :=
  String.ofList (if cs.head? == some '`' then withoutReturns cs else cs)

/-- The text of a comment, without carriage returns. -/
def commentText (cs : List Char) : String :=
  String.ofList
    (if cs.take 2 == ['/', '*'] then blockWithoutReturns 0 ' ' cs else withoutReturns cs)

/-- A semicolon that is not written. -/
def impliedSemicolon (offset : Nat) : Lexeme := ⟨.semicolon false, "\n", offset, offset + 1⟩

/-- The characters between tokens. -/
def isGap (endsStatement : Bool) (c : Char) : Bool :=
  c == ' ' || c == '\t' || c == '\r' || (c == '\n' && !endsStatement)

/-- The tokens of a text from an offset, behind those that were found before, the latest first.
`endsStatement` says whether the end of the line ends a statement. -/
def scanFrom (lines : LineTable) :
    Nat → Nat → Bool → List Lexeme → List Char → Option (List Lexeme)
  | 0, _, _, _, _ => none
  | fuel + 1, offset, endsStatement, found, cs =>
    let (gap, cs) := cs.span (isGap endsStatement)
    let offset := offset + byteCount gap
    match cs with
    | [] =>
      let found := if endsStatement then impliedSemicolon offset :: found else found
      some ((⟨.finish, "", offset, offset⟩ :: found).reverse)
    | '\n' :: rest =>
      scanFrom lines fuel (offset + 1) false (impliedSemicolon offset :: found) rest
    | cs =>
      match cutComment cs with
      | some (comment, rest) =>
        if !commentFits (lines.isLineStart offset) comment then none
        else
          let stop := offset + byteCount comment
          let found := ⟨.comment, commentText comment, offset, stop⟩ :: found
          if endsStatement && comment.contains '\n' then
            let break_ := offset + byteCount (comment.takeWhile (· != '\n'))
            scanFrom lines fuel stop false (impliedSemicolon break_ :: found) rest
          else scanFrom lines fuel stop endsStatement found rest
      | none =>
        if cs.take 2 == ['/', '*'] then none
        else
          match cutToken cs with
          | none => none
          | some (kind, text, rest) =>
            let stop := offset + byteCount text
            scanFrom lines fuel stop kind.endsStatement
              (⟨kind, tokenText text, offset, stop⟩ :: found) rest

/-- The characters that no source text holds. -/
def isForbidden (c : Char) : Bool := c == '\x00' || c == '\uFEFF'

/-- The tokens and comments of a text. -/
def scan (lines : LineTable) (cs : List Char) : Option (List Lexeme) :=
  if cs.any isForbidden then none else scanFrom lines (cs.length + 2) 0 false [] cs

/-- Comments that follow each other, each at most `gap` lines behind the end of the one before:
the comments, the line on which the last one ends, and what follows. -/
def cutComments (lines : LineTable) (gap endLine : Nat) :
    List Lexeme → Comments × Nat × List Lexeme
  | [] => ([], endLine, [])
  | l :: rest =>
    if l.kind == .comment && lines.line l.start ≤ endLine + gap then
      let breaks := if hasStart "/*" l.text then l.text.toList.count '\n' else 0
      let (group, stop, rest) := cutComments lines gap (lines.line l.start + breaks) rest
      (⟨l.start, l.text⟩ :: group, stop, rest)
    else ([], endLine, l :: rest)

/-- The groups of comments in front of a token, the line on which the last one ends, and what
follows. -/
def cutGroups (lines : LineTable) : Nat → List Lexeme → List Comments × Option Nat × List Lexeme
  | 0, ls => ([], none, ls)
  | fuel + 1, ls =>
    match ls with
    | [] => ([], none, [])
    | l :: _ =>
      if l.kind == .comment then
        let (group, stop, rest) := cutComments lines 1 (lines.line l.start) ls
        let (groups, last, rest) := cutGroups lines fuel rest
        (group :: groups, last.or (some stop), rest)
      else ([], none, ls)

/-- The comments that begin on the line of the token in front, the line on which they end, and
what follows. -/
def cutOwn (lines : LineTable) (before : Nat) : List Lexeme → Comments × Nat × List Lexeme
  | [] => ([], 0, [])
  | l :: rest =>
    if l.kind == .comment && lines.line l.start == before then
      cutComments lines 0 (lines.line l.start) (l :: rest)
    else ([], 0, l :: rest)

/-- A comment that ends on a line is a remark on what stands in front of it, because of what
follows it. -/
def isRemarkBefore (lines : LineTable) (stop : Nat) (l : Lexeme) : Bool :=
  lines.line l.start != stop || l.kind.isSemicolon || l.kind == .finish

/-- Tokens with their comments, and all groups of comments, each behind those that were found
before, the latest first. `before` is the line of the token in front. A group on that line is
a remark on it, unless the next token stands on the line too. -/
def attachFrom (lines : LineTable) :
    Nat → Nat → List Token → List Comments → List Lexeme → List Token × List Comments
  | 0, _, tokens, found, _ => (tokens.reverse, found.reverse)
  | fuel + 1, before, tokens, found, ls =>
    let (own, ownLine, rest) := cutOwn lines before ls
    let isRemark := !own.isEmpty && rest.head?.any (isRemarkBefore lines ownLine)
    let (groups, stop, rest) := cutGroups lines fuel rest
    match rest with
    | [] => (tokens.reverse, found.reverse)
    | l :: more =>
      let line := lines.line l.start
      let lead := if stop.any (· + 1 == line) then groups.getLast? else none
      let token : Token := ⟨l, lead, if isRemark then some own else none⟩
      let found := if own.isEmpty then found else own :: found
      attachFrom lines fuel line (token :: tokens) (groups.reverse ++ found) more

/-- Tokens with their comments, and all groups of comments in order. -/
def attachComments (lines : LineTable) (ls : List Lexeme) : List Token × List Comments :=
  attachFrom lines (ls.length + 1) 0 [] [] ls

end ApiCompiler.Go
