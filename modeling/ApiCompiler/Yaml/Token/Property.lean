import ApiCompiler.Decimal.Double
import ApiCompiler.Yaml.Token.Scalar

/-!
# Anchors, tags and directives

Readers for the names of anchors, for tags in their three forms, and for the directives at
the beginning of a document.
-/

namespace ApiCompiler.Yaml

/-- The name behind `&` or `*`. A blank or an indicator has to follow it. -/
def readAnchorName (c : Cursor) : Option (String × Cursor) :=
  let name := c.rest.takeWhile isNameChar
  let c := c.advance name.length
  let closed := startsBlank c.rest ||
    c.peek?.any ['?', ':', ',', ']', '\x7d', '%', '@', '`'].contains
  if !c.has 1 || name.isEmpty || !closed then none else some (String.ofList name, c)

/-- A character of a tag. -/
def isTagChar (c : Char) : Bool :=
  isNameChar c || [';', '/', '?', ':', '@', '&', '=', '+', '$', ',', '.', '!', '~', '*', '\'',
    '(', ')', '[', ']', '%'].contains c

/-- The number of bytes of a character in UTF-8, by its first byte; zero for a byte that
begins none. -/
def leadWidth (byte : Nat) : Nat :=
  if byte < 0x80 then 1
  else if 0xC0 ≤ byte && byte < 0xE0 then 2
  else if 0xE0 ≤ byte && byte < 0xF0 then 3
  else if 0xF0 ≤ byte && byte < 0xF8 then 4
  else 0

/-- One byte written as `%` and two hexadecimal digits. -/
def percentByte? : List Char → Option (Nat × List Char)
  | '%' :: a :: b :: rest => do
    let high ← hexValue? a
    let low ← hexValue? b
    return (high * 16 + low, rest)
  | _ => none

/-- The bytes behind the first of a character, each written with `%`. -/
def percentTail : Nat → Nat → List Char → Option (Nat × List Char)
  | 0, n, cs => some (n, cs)
  | count + 1, n, cs => do
    let (byte, cs) ← percentByte? cs
    guard (0x80 ≤ byte && byte < 0xC0)
    percentTail count (n * 64 + byte % 64) cs

/-- One character written by its bytes. -/
def percentChar? (cs : List Char) : Option (Char × List Char) := do
  let (byte, rest) ← percentByte? cs
  let width := leadWidth byte
  guard (width != 0)
  let head := if width == 1 then byte else byte % Decimal.twoTo (7 - width)
  let (n, rest) ← percentTail (width - 1) head rest
  return (Char.ofNat n, rest)

/-- The characters of a tag, with escaped characters decoded, and what follows them. -/
def readTagChars : Nat → List Char → Option (List Char × List Char)
  | 0, cs => some ([], cs)
  | fuel + 1, cs =>
    match cs with
    | [] => some ([], [])
    | c :: rest =>
      if !isTagChar c then some ([], cs)
      else if c == '%' then do
        let (d, rest) ← percentChar? cs
        let (more, rest) ← readTagChars fuel rest
        return (d :: more, rest)
      else do
        let (more, rest) ← readTagChars fuel rest
        return (c :: more, rest)

/-- The cursor at a given rest of its own line. -/
def Cursor.upTo (c : Cursor) (rest : List Char) : Cursor :=
  c.advance (c.left - rest.length)

/-- Tag characters at the cursor. -/
def readTagText (c : Cursor) : Option (List Char × Cursor) := do
  let (text, rest) ← readTagChars (c.left + 1) c.rest
  let c := c.upTo rest
  guard (c.has 1)
  return (text, c)

/-- An exclamation mark, a name, and a second exclamation mark if there is one. -/
def readHandle (c : Cursor) : Option (List Char × Cursor) :=
  match c.rest with
  | '!' :: rest =>
    let name := rest.takeWhile isNameChar
    match rest.drop name.length with
    | '!' :: _ => some ('!' :: name ++ ['!'], c.advance (name.length + 2))
    | _ => some ('!' :: name, c.advance (name.length + 1))
  | _ => none

/-- A tag: its handle and its suffix. The verbatim form has no handle; the lone `!` has no
handle and itself as suffix. -/
def readTag (c : Cursor) : Option ((String × String) × Cursor) := do
  guard (c.has 2)
  let ((handle, suffix), c) ← match c.rest with
    | '!' :: '<' :: _ => do
      let (text, c) ← readTagText (c.advance 2)
      guard (!text.isEmpty && c.peek? == some '>')
      pure (([], text), c.advance 1)
    | _ => do
      let (handle, c) ← readHandle c
      if handle.length > 1 && handle.getLast? == some '!' then
        let (text, c) ← readTagText c
        guard (!text.isEmpty)
        pure ((handle, text), c)
      else
        let (text, c) ← readTagText c
        let suffix := handle.tail ++ text
        pure (if suffix.isEmpty then (([], ['!']), c) else ((['!'], suffix), c))
  guard (c.has 1 && startsBlank c.rest)
  return ((String.ofList handle, String.ofList suffix), c)

/-- A part of a version: one or two digits. -/
def readVersionPart (c : Cursor) : Option (Nat × Cursor) :=
  let digits := c.rest.takeWhile Char.isDigit
  if digits.isEmpty || digits.length > 2 then none
  else some (digits.foldl (fun n d => n * 10 + (d.toNat - 0x30)) 0, c.advance digits.length)

/-- The directive behind `%`, to the end of its line. -/
def readDirective (c : Cursor) : Option (TokenKind × Cursor) := do
  let name := c.rest.takeWhile isNameChar
  let c := c.advance name.length
  guard (c.has 1 && !name.isEmpty && startsBlank c.rest)
  let c ← c.skipBlanks?
  let (kind, c) ←
    if name == "YAML".toList then do
      let (major, c) ← readVersionPart c
      guard (c.peek? == some '.')
      let (minor, c) ← readVersionPart (c.advance 1)
      pure (TokenKind.versionDirective major minor, c)
    else if name == "TAG".toList then do
      let (handle, c) ← readHandle c
      guard (handle == ['!'] || handle.getLast? == some '!')
      guard (c.peek?.any isBlank)
      let (text, c) ← readTagText (← c.skipBlanks?)
      guard (!text.isEmpty && startsBlank c.rest)
      pure (TokenKind.tagDirective (String.ofList handle) (String.ofList text), c)
    else none
  let c ← c.skipBlanks?
  let c ← if c.peek? == some '#' then c.skipLineRest? else some c
  guard (startsBreak c.rest)
  return (kind, ← c.nextLine?)

end ApiCompiler.Yaml
