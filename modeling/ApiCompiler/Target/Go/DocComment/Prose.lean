import ApiCompiler.Target.Go.DocComment.Reference

/-!
# The prose of a documentation text

Doubled backquotes and apostrophes become typographic quotes, but not inside addresses. A label
in brackets refers to a definition of a link or to a package; no address reaches into it.
-/

namespace ApiCompiler.Go.DocComment

open Text

/-- The characters of a host. -/
def isHostChar (c : Char) : Bool :=
  isPlainWordChar c || ['_', '@', '-', '.', '[', ']', ':'].contains c

/-- The punctuation that does not end an address. -/
def isAddressPunctuation (c : Char) : Bool := ['.', ',', ':', ';', '?', '!'].contains c

/-- The other characters of a path. -/
def isPathChar (c : Char) : Bool :=
  isPlainWordChar c ||
    ['$', '\'', '(', ')', '*', '+', '&', '#', '=', '@', '~', '_', '/', '-', '[', ']', '\x7b',
     '\x7d', '%'].contains c

/-- The length of the longest beginning of a list that ends with a character that satisfies
`isLast`. `count` characters stand in front, and `found` is the length up to the last such
character so far. -/
def lengthUpTo (isInner isLast : Char → Bool) (count found : Nat) : List Char → Nat
  | [] => found
  | c :: rest =>
    if isInner c then
      lengthUpTo isInner isLast (count + 1) (if isLast c then count + 1 else found) rest
    else found

/-- The bracket that closes another. -/
def closingOf? (c : Char) : Option Char :=
  if c == '(' then some ')' else if c == '\x7b' then some '\x7d' else if c == '[' then some ']'
  else none

/-- The length of an address up to the end of its path. Brackets match, and punctuation does not
stand at the end. `open_` holds the brackets that have to be closed, `count` characters stand in
front, and `found` is the length up to the last possible end. -/
def pathLength (open_ : List Char) (count found : Nat) : List Char → Nat
  | [] => found
  | c :: rest =>
    if isAddressPunctuation c then pathLength open_ (count + 1) found rest
    else if !isPathChar c then found
    else
      match closingOf? c with
      | some closing => pathLength (closing :: open_) (count + 1) found rest
      | none =>
        if c == ')' || c == '\x7d' || c == ']' then
          match open_ with
          | top :: outer =>
            if top != c then found
            else pathLength outer (count + 1) (if outer.isEmpty then count + 1 else found) rest
          | [] => found
        else pathLength open_ (count + 1) (if open_.isEmpty then count + 1 else found) rest

/-- The length of the address at the beginning of a list, if there is one. -/
def addressLength? (cs : List Char) : Option Nat :=
  match scheme? (cs.take 9) with
  | none => none
  | some scheme =>
    if !(schemes.contains (String.ofList scheme)) then none
    else
      let start := scheme.length + 3
      match cs.drop start with
      | [] => none
      | c :: rest =>
        if !isHostChar c || isAddressPunctuation c then none
        else
          let host := lengthUpTo isHostChar (fun c => !isAddressPunctuation c) (start + 1)
            (start + 1) rest
          some (pathLength [] host host (cs.drop host))

/-- The first characters of a list, up to a number of bytes, and the others. -/
def splitAtByte : Nat → List Char → List Char × List Char
  | _, [] => ([], [])
  | bytes, c :: rest =>
    if bytes == 0 then ([], c :: rest)
    else
      let (before, after) := splitAtByte (bytes - c.utf8Size) rest
      (c :: before, after)

/-- The number of backquotes in a row from a byte of a text. -/
def backquotesFrom (text : List Char) (byte : Nat) : Nat :=
  ((splitAtByte byte text).2.takeWhile (· == '`')).length

/-- A text with typographic quotes, from a byte of it. Three backquotes stay, together with as
many characters more as there are backquotes twice as far from the beginning. Addresses stay
too, unless the text is the label of a link. -/
def typographicFrom (text : List Char) (isLabel : Bool) : Nat → Nat → List Char → List Char
  | 0, _, rest => rest
  | _ + 1, _, [] => []
  | fuel + 1, byte, c :: rest =>
    let cs := c :: rest
    let keep := fun (length : Nat) =>
      cs.take length ++
        typographicFrom text isLabel fuel (byte + byteCount (cs.take length)) (cs.drop length)
    let word := if isLabel then 0 else (addressLength? cs).getD (wordLength cs)
    if word != 0 then keep word
    else
      match cs with
      | '`' :: '`' :: '`' :: _ =>
        keep (splitAtByte (3 + backquotesFrom text (2 * byte + 3)) cs).1.length
      | '`' :: '`' :: rest => '\u201C' :: typographicFrom text isLabel fuel (byte + 2) rest
      | '\'' :: '\'' :: rest => '\u201D' :: typographicFrom text isLabel fuel (byte + 2) rest
      | _ => keep 1

/-- A text with typographic quotes. -/
def typographic (isLabel : Bool) (text : List Char) : List Char :=
  typographicFrom text isLabel (text.length + 1) 0 text

/-- Reading labels in a text: what was written, in reverse order, the characters behind it, the
latest first, the characters behind the last opening bracket, the latest first, the label so far,
and the numbers of the definitions that were referred to. -/
structure LabelState where
  written : List (List Char)
  plain : List Char
  inner : Option (List Char)
  label : List Char
  used : List Nat

namespace LabelState

/-- The text that was written and the rest of it. -/
def text (s : LabelState) : List Char :=
  (typographic false s.plain.reverse :: s.written).reverse.flatten

/-- Adds a character that is no bracket. -/
def addPlain (s : LabelState) (c : Char) : LabelState :=
  { s with
    plain := c :: s.plain
    inner := s.inner.map (c :: ·)
    label := if s.inner.isSome then (if c == '\n' || c == '\t' then ' ' else c) :: s.label
      else s.label }

/-- Opens a bracket. -/
def openBracket (s : LabelState) : LabelState :=
  { s with plain := '[' :: s.plain, inner := some [] }

/-- Closes a bracket, in front of a character. A label that is defined becomes a link, and one that
names a package becomes a reference. -/
def closeBracket (definitions : List LinkDefinition) (s : LabelState) (after : Option Char) :
    LabelState :=
  let next := { s with plain := ']' :: s.plain, inner := none, label := [] }
  match s.inner with
  | none => next
  | some inner =>
    let before := s.plain.drop (inner.length + 1)
    let number := definitions.findIdx? (·.label == String.ofList s.label.reverse)
    if number.isSome || isReference before.head? inner.reverse after then
      { next with
        written := ('[' :: typographic true inner.reverse ++ [']']) ::
          typographic false before.reverse :: s.written
        plain := []
        used := number.toList ++ s.used }
    else next

/-- Adds a character in front of another. -/
def add (definitions : List LinkDefinition) (s : LabelState) (c : Char) (after : Option Char) :
    LabelState :=
  if c == '[' then s.openBracket
  else if c == ']' then s.closeBracket definitions after
  else s.addPlain c

/-- Adds characters. -/
def addAll (definitions : List LinkDefinition) (s : LabelState) : List Char → LabelState
  | [] => s
  | c :: rest => (s.add definitions c rest.head?).addAll definitions rest

end LabelState

/-- The text of prose, and the numbers of the definitions that it refers to. -/
def prose (definitions : List LinkDefinition) (text : String) : String × List Nat :=
  let s := LabelState.addAll definitions ⟨[], [], none, [], []⟩ text.toList
  (String.ofList s.text, s.used)

end ApiCompiler.Go.DocComment
