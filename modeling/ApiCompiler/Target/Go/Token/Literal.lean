import ApiCompiler.Target.Go.Token
import ApiCompiler.Text.Blank

/-!
# Literals of Go

Reading a number, a quoted text or a raw text at the beginning of a list of characters. A
literal that is malformed has no reading.
-/

namespace ApiCompiler.Go

open Text

/-- A decimal digit. -/
def isDecimalDigit (c : Char) : Bool := '0' ≤ c && c ≤ '9'

/-- The value of a hexadecimal digit; sixteen for any other character. -/
def digitValue (c : Char) : Nat :=
  if '0' ≤ c && c ≤ '9' then c.toNat - '0'.toNat
  else if 'a' ≤ c && c ≤ 'f' then c.toNat - 'a'.toNat + 10
  else if 'A' ≤ c && c ≤ 'F' then c.toNat - 'A'.toNat + 10
  else 16

/-- What marks the base of a number. -/
inductive NumberBase where
  | decimal
  | leadingZero
  | octal
  | binary
  | hexadecimal
deriving DecidableEq, Repr

namespace NumberBase

/-- The base that follows a mark behind a zero. -/
def ofMark? (c : Char) : Option NumberBase :=
  if c == 'x' || c == 'X' then some hexadecimal
  else if c == 'o' || c == 'O' then some octal
  else if c == 'b' || c == 'B' then some binary
  else none

/-- The characters of the digits of a number; digits that are too large are refused later. -/
def isDigit (base : NumberBase) (c : Char) : Bool :=
  if base = hexadecimal then digitValue c < 16 else isDecimalDigit c

/-- The number of digits. -/
def size : NumberBase → Nat
  | decimal => 10
  | leadingZero | octal => 8
  | binary => 2
  | hexadecimal => 16

end NumberBase

/-- The digits and separators at the beginning of a list, and what follows. -/
def cutDigits (base : NumberBase) (cs : List Char) : List Char × List Char :=
  cs.span fun c => c == '_' || base.isDigit c

/-- Separators stand between digits only; a mark of a base counts as a digit. `before` says what
stands in front: a separator, a digit, or something else. -/
def separatorsFit (isHexadecimal : Bool) (before : Char) : List Char → Bool
  | [] => before != '_'
  | '_' :: rest => before == '0' && separatorsFit isHexadecimal '_' rest
  | c :: rest =>
    if isDecimalDigit c || (isHexadecimal && digitValue c < 16) then
      separatorsFit isHexadecimal '0' rest
    else before != '_' && separatorsFit isHexadecimal '.' rest

/-- The separators of a number are in place. -/
def numberSeparatorsFit : List Char → Bool
  | '0' :: c :: rest =>
    match NumberBase.ofMark? c with
    | some base => separatorsFit (base == .hexadecimal) '0' rest
    | none => separatorsFit false '.' ('0' :: c :: rest)
  | cs => separatorsFit false '.' cs

/-- An exponent of a number: its mark, a sign, and digits. -/
def cutExponent (cs : List Char) : Option (List Char × List Char) :=
  let (sign, rest) := match cs with
    | c :: rest => if c == '+' || c == '-' then ([c], rest) else ([], cs)
    | [] => ([], [])
  let (digits, rest) := cutDigits .decimal rest
  if digits.any isDecimalDigit then some (sign ++ digits, rest) else none

/-- A number at the beginning of a list, and what follows it. -/
def cutNumber (cs : List Char) : Option (TokenKind × List Char × List Char) := do
  let (base, start, rest) := match cs with
    | '0' :: c :: rest =>
      match NumberBase.ofMark? c with
      | some base => (base, ['0', c], rest)
      | none => (.leadingZero, ['0'], c :: rest)
    | ['0'] => (.leadingZero, ['0'], [])
    | _ => (.decimal, [], cs)
  let (whole, rest) := cutDigits base rest
  let isFraction := rest.head? == some '.'
  let (fraction, rest) := if isFraction then cutDigits base (rest.drop 1) else ([], rest)
  if isFraction && (base == .octal || base == .binary) then none
  if base != .leadingZero && !(whole ++ fraction).any (· != '_') then none
  let mantissa := start ++ whole ++ (if isFraction then '.' :: fraction else [])
  let (exponent, rest) ← match rest with
    | c :: more =>
      if c == 'e' || c == 'E' then
        if base == .decimal || base == .leadingZero then
          (cutExponent more).map fun (digits, rest) => (c :: digits, rest)
        else none
      else if c == 'p' || c == 'P' then
        if base == .hexadecimal then
          (cutExponent more).map fun (digits, rest) => (c :: digits, rest)
        else none
      else some ([], rest)
    | [] => some ([], [])
  if base == .hexadecimal && isFraction && exponent.isEmpty then none
  let isImaginary := rest.head? == some 'i'
  let kind : TokenKind :=
    if isImaginary then .imaginary
    else if isFraction || !exponent.isEmpty then .float
    else .int
  if kind == .int && whole.any (fun c => c != '_' && base.size ≤ digitValue c) then none
  let text := mantissa ++ exponent ++ (if isImaginary then ['i'] else [])
  if numberSeparatorsFit text then
    some (kind, text, if isImaginary then rest.drop 1 else rest)
  else none

/-- A fixed number of digits of a base, read after a value. -/
def cutCode (base : Nat) : Nat → Nat → List Char → List Char → Option (Nat × List Char × List Char)
  | 0, value, taken, rest => some (value, taken.reverse, rest)
  | _ + 1, _, _, [] => none
  | count + 1, value, taken, c :: rest =>
    if digitValue c < base then cutCode base count (value * base + digitValue c) (c :: taken) rest
    else none

/-- What follows a backslash in a quoted text: the characters of the escape, and the rest. -/
def cutEscape (quote : Char) : List Char → Option (List Char × List Char)
  | [] => none
  | c :: rest =>
    let coded := fun (base count bound : Nat) (mark digits : List Char) => do
      let (value, taken, rest) ← cutCode base count 0 [] digits
      if value ≤ bound && !(0xD800 ≤ value && value < 0xE000) then some (mark ++ taken, rest)
      else none
    if c == quote || ['a', 'b', 'f', 'n', 'r', 't', 'v', '\\'].contains c then some ([c], rest)
    else if '0' ≤ c && c ≤ '7' then coded 8 3 255 [] (c :: rest)
    else if c == 'x' then coded 16 2 255 [c] rest
    else if c == 'u' then coded 16 4 0x10FFFF [c] rest
    else if c == 'U' then coded 16 8 0x10FFFF [c] rest
    else none

/-- The units of a quoted text up to its closing quote, each a character or an escape, and
what follows. The text ends on its line. -/
def cutQuoted (quote : Char) : Nat → List Char → Option (List (List Char) × List Char)
  | 0, _ => none
  | fuel + 1, cs =>
    match cs with
    | [] => none
    | c :: rest =>
      if c == '\n' then none
      else if c == quote then some ([], rest)
      else if c == '\\' then do
        let (escape, rest) ← cutEscape quote rest
        let (units, rest) ← cutQuoted quote fuel rest
        return (('\\' :: escape) :: units, rest)
      else do
        let (units, rest) ← cutQuoted quote fuel rest
        return ([c] :: units, rest)

/-- A quoted text whose opening quote was read. It has no more units than its line has
characters, and a character has exactly one unit. -/
def cutText (quote : Char) (cs : List Char) : Option (List Char × List Char) := do
  let (units, rest) ← cutQuoted quote ((cs.takeWhile (· != '\n')).length + 1) cs
  if quote == '\'' && units.length != 1 then none
  else some (quote :: units.flatten ++ [quote], rest)

/-- A raw text whose opening quote was read. -/
def cutRaw (cs : List Char) : Option (List Char × List Char) :=
  (cutAt '`' cs).map fun (content, rest) => ('`' :: content ++ ['`'], rest)

end ApiCompiler.Go
