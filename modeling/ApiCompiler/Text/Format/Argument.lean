import ApiCompiler.Decimal.Double
import ApiCompiler.Text.Format.Directive
import ApiCompiler.Text.Quoted

/-!
# Arguments of a format

How a text or a whole number looks under a verb, with flags, a width and a precision. A verb
that does not fit the argument shows the verb, the type and the value instead.
-/

namespace ApiCompiler.Text.Format

/-- The flags and measures that hold while one argument is written. -/
structure Style where
  flags : Flags
  /-- The value is written the way source code would write it. -/
  literal : Bool
  width : Option Nat
  precision : Option Nat

/-- An argument of a format. -/
inductive Argument where
  | text (s : String)
  | int (i : Int)
deriving Repr

namespace Style

/-- No flags and no measures. -/
def plain : Style := ⟨.none, false, none, none⟩

/-- Zeros pad only to the left. -/
def padding (s : Style) (n : Nat) : String :=
  String.ofList (List.replicate n (if s.flags.zero && !s.flags.minus then '0' else ' '))

/-- A text with padding up to the width. -/
def pad (s : Style) (t : String) : String :=
  let missing := s.width.getD 0 - t.length
  if s.flags.minus then t ++ s.padding missing else s.padding missing ++ t

/-- A text with spaces up to the width. -/
def padWithSpaces (s : Style) (t : String) : String :=
  { s with flags := { s.flags with zero := false } }.pad t

/-- A text cut to the precision. -/
def cut (s : Style) (t : String) : String :=
  match s.precision with
  | some n => String.ofList (t.toList.take n)
  | none => t

end Style

/-- A hexadecimal digit in either case. -/
def hexChar (upper : Bool) (n : Nat) : Char :=
  if upper then (hexDigit n).toUpper else hexDigit n

/-- The mark of hexadecimal numbers in either case. -/
def hexMark (upper : Bool) : String := if upper then "0X" else "0x"

/-- A text that can stand between backquotes. -/
def canBackquote (s : String) : Bool :=
  s.toList.all fun c =>
    !((c.toNat < 0x20 && c != '\t') || c == '\x60' || c == '\x7f' || c == '\uFEFF')

/-- One character between quotes of the kind `q`, in ASCII if asked. -/
def escapeFor (q : Char) (ascii : Bool) (c : Char) : List Char :=
  if c = q then ['\\', c]
  else if c = '"' then [c]
  else if ascii && 0x80 ≤ c.toNat then
    if c.toNat < 0x10000 then '\\' :: 'u' :: hexDigits 4 c.toNat
    else '\\' :: 'U' :: hexDigits 8 c.toNat
  else Quoted.escape c

/-- Characters between quotes of the kind `q`. -/
def quoteWith (q : Char) (ascii : Bool) (cs : List Char) : String :=
  String.ofList ([q] ++ cs.flatMap (escapeFor q ascii) ++ [q])

/-- A text in quotes; backquotes if that is asked for and possible. -/
def quoted (s : Style) (t : String) : String :=
  let t := s.cut t
  if s.flags.sharp && canBackquote t then s.pad ("\x60" ++ t ++ "\x60")
  else s.pad (quoteWith '"' s.flags.plus t.toList)

/-- The bytes of a text in hexadecimal. -/
def hexBytes (s : Style) (upper : Bool) (t : String) : String :=
  let bytes := t.toUTF8.toList.map UInt8.toNat
  let bytes := match s.precision with
    | some n => bytes.take n
    | none => bytes
  let shown := bytes.map fun b => String.ofList [hexChar upper (b / 16), hexChar upper (b % 16)]
  if shown.isEmpty then s.padding (s.width.getD 0)
  else
    let mark := if s.flags.sharp then hexMark upper else ""
    let between := if s.flags.space then " " ++ mark else ""
    s.pad (mark ++ between.intercalate shown)

/-- A text under a verb. -/
def textUnder (s : Style) (t : String) (verb : Char) : Option String :=
  match verb with
  | 'v' => some (if s.literal then quoted s t else s.pad (s.cut t))
  | 's' => some (s.pad (s.cut t))
  | 'x' => some (hexBytes s false t)
  | 'X' => some (hexBytes s true t)
  | 'q' => some (quoted s t)
  | _ => none

/-- A whole number in a base, without padding up to the width. -/
def numeralUnder (s : Style) (base : Nat) (upper : Bool) (verb : Char) (i : Int) : String :=
  let signed := i < 0 || s.flags.plus || s.flags.space
  let least := match s.precision with
    | some n => n
    | none =>
      if s.flags.zero && !s.flags.minus then s.width.getD 0 - (if signed then 1 else 0) else 0
  let digits := (Nat.toDigits base i.natAbs).map fun c => if upper then c.toUpper else c
  let digits := List.replicate (least - digits.length) '0' ++ digits
  let mark := if s.flags.sharp then
      match base with
      | 2 => "0b"
      | 8 => if digits.head? == some '0' then "" else "0"
      | 16 => hexMark upper
      | _ => ""
    else ""
  let mark := if verb = 'O' then "0o" ++ mark else mark
  let sign := if i < 0 then "-" else if s.flags.plus then "+" else if s.flags.space then " " else ""
  sign ++ mark ++ String.ofList digits

/-- A whole number in a base. A zero with the precision zero is all padding. -/
def integer (s : Style) (base : Nat) (upper : Bool) (verb : Char) (i : Int) : String :=
  if s.precision = some 0 && i = 0 then s.padWithSpaces ""
  else s.padWithSpaces (numeralUnder s base upper verb i)

/-- A whole number as 64 bits in two's complement. -/
def bits64 (i : Int) : Nat := (i % (Decimal.twoTo 64 : Nat)).toNat

/-- The character with a code, or the replacement character. -/
def charOf (n : Nat) : Char :=
  if n.isValidChar then Char.ofNat n else '\uFFFD'

/-- A code point as a number, with the character itself if asked and possible. -/
def codePoint (s : Style) (n : Nat) : String :=
  let digits := (Nat.toDigits 16 n).map Char.toUpper
  let digits := List.replicate (Nat.max 4 (s.precision.getD 0) - digits.length) '0' ++ digits
  let shown := if s.flags.sharp && n.isValidChar && isPrintable (Char.ofNat n) then
    " '" ++ String.singleton (Char.ofNat n) ++ "'" else ""
  s.padWithSpaces ("U+" ++ String.ofList digits ++ shown)

/-- A whole number under a verb. -/
def intUnder (s : Style) (i : Int) (verb : Char) : Option String :=
  match verb with
  | 'v' => some (integer s 10 false verb i)
  | 'd' => some (integer s 10 false verb i)
  | 'b' => some (integer s 2 false verb i)
  | 'o' => some (integer s 8 false verb i)
  | 'O' => some (integer s 8 false verb i)
  | 'x' => some (integer s 16 false verb i)
  | 'X' => some (integer s 16 true verb i)
  | 'c' => some (s.pad (String.singleton (charOf (bits64 i))))
  | 'q' => some (s.pad (quoteWith '\x27' s.flags.plus [charOf (bits64 i)]))
  | 'U' => some (codePoint s (bits64 i))
  | _ => none

namespace Argument

/-- The name of an argument's type. -/
def typeName : Argument → String
  | text _ => "string"
  | int _ => "int"

/-- An argument under a verb that may not fit. -/
def under? (a : Argument) (s : Style) (verb : Char) : Option String :=
  match a with
  | text t => textUnder s t verb
  | int i => intUnder s i verb

/-- The type and the value of an argument. -/
def described (a : Argument) (s : Style) : String :=
  a.typeName ++ "=" ++ (a.under? s 'v').getD ""

/-- An argument under a verb. -/
def under (a : Argument) (s : Style) (verb : Char) : String :=
  if verb = 'T' then s.pad (s.cut a.typeName)
  else
    match a.under? s verb with
    | some t => t
    | none => "%!" ++ String.singleton verb ++ "(" ++ a.described s ++ ")"

end Argument

end ApiCompiler.Text.Format
