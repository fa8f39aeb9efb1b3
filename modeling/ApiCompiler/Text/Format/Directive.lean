/-!
# Directives of a format

A format is a text with directives. A directive starts with a percent sign, which may be
followed by flags, a width, a precision and the position of an argument in brackets, and ends
with a verb. Reading a format never fails: what is malformed stays visible in the directive.
-/

namespace ApiCompiler.Text.Format

/-- What may stand between the percent sign and the numbers of a directive. -/
structure Flags where
  sharp : Bool
  zero : Bool
  plus : Bool
  minus : Bool
  space : Bool
deriving Repr, DecidableEq

namespace Flags

/-- No flag at all. -/
def none : Flags := ⟨false, false, false, false, false⟩

/-- The flags and the characters after them. -/
def read (flags : Flags) : List Char → Flags × List Char
  | '#' :: rest => read { flags with sharp := true } rest
  | '0' :: rest => read { flags with zero := true } rest
  | '+' :: rest => read { flags with plus := true } rest
  | '-' :: rest => read { flags with minus := true } rest
  | ' ' :: rest => read { flags with space := true } rest
  | cs => (flags, cs)

end Flags

/-- A number in a directive. One that is too large takes the rest of the format with it. -/
def readNumber (acc : Option Nat) : List Char → Option Nat × List Char
  | [] => (acc, [])
  | c :: rest =>
    if c.isDigit then
      let n := acc.getD 0
      if n > 1000000 then (none, []) else readNumber (some (n * 10 + (c.toNat - 0x30))) rest
    else (acc, c :: rest)

/-- Where a directive says that its argument is. -/
inductive Position where
  | unstated
  | stated (oneBased : Nat)
  | malformed
deriving Repr, DecidableEq

namespace Position

/-- A position in brackets and the characters after it. -/
def read : List Char → Position × List Char
  | '[' :: rest =>
    if rest.length < 2 || !rest.contains ']' then (malformed, rest)
    else
      let inside := rest.takeWhile (· != ']')
      let after := rest.drop (inside.length + 1)
      match readNumber none inside with
      | (some n, []) => (stated n, after)
      | _ => (malformed, after)
  | cs => (unstated, cs)

/-- A position was read, whether or not there is such an argument. -/
def isStated : Position → Bool
  | stated _ => true
  | _ => false

end Position

/-- A width or a precision: a number, or a star for "the next argument". -/
inductive Measure where
  | absent
  | number (n : Nat)
  | star
deriving Repr, DecidableEq

namespace Measure

/-- A width or a precision and the characters after it. -/
def read : List Char → Measure × List Char
  | '*' :: rest => (star, rest)
  | cs =>
    match readNumber none cs with
    | (some n, rest) => (number n, rest)
    | (none, rest) => (absent, rest)

end Measure

/-- One directive. The verb is missing when the format ends before it. -/
structure Directive where
  flags : Flags
  widthPosition : Position
  width : Measure
  hasPrecision : Bool
  precisionPosition : Position
  precision : Measure
  verbPosition : Position
  verb : Option Char
deriving Repr

namespace Directive

/-- The position that still holds after a width or a precision: a star uses it up. -/
def remaining (p : Position) (m : Measure) : Position :=
  if m = .star then .unstated else p

/-- The precision, with its position, and the characters after it. -/
def readPrecision : List Char → Bool × Position × Measure × List Char
  | '.' :: rest =>
    let (p, rest) := Position.read rest
    let (m, rest) := Measure.read rest
    (true, p, m, rest)
  | cs => (false, .unstated, .absent, cs)

/-- The directive after a percent sign and the characters after it. -/
def read (cs : List Char) : Directive × List Char :=
  let (flags, cs) := Flags.read .none cs
  let (widthPosition, cs) := Position.read cs
  let (width, cs) := Measure.read cs
  let (hasPrecision, precisionPosition, precision, cs) := readPrecision cs
  let last := if hasPrecision then remaining precisionPosition precision
    else remaining widthPosition width
  let (verbPosition, cs) := if last.isStated then (.unstated, cs) else Position.read cs
  (⟨flags, widthPosition, width, hasPrecision, precisionPosition, precision, verbPosition,
    cs.head?⟩, cs.tail)

end Directive

/-- A piece of a format. -/
inductive Piece where
  | literal (c : Char)
  | directive (d : Directive)
deriving Repr

namespace Piece

/-- The pieces of a format, of which there are at most `fuel`. -/
def readAll : Nat → List Char → List Piece
  | 0, _ => []
  | _, [] => []
  | fuel + 1, '%' :: rest =>
    let (d, rest) := Directive.read rest
    .directive d :: readAll fuel rest
  | fuel + 1, c :: rest => .literal c :: readAll fuel rest

/-- The pieces of a format. -/
def read (s : String) : List Piece := readAll s.length s.toList

end Piece

end ApiCompiler.Text.Format
