import ApiCompiler.Text.Printable

/-!
# Double-quoted text

A text between double quotes: quotes and backslashes are escaped by a backslash, the usual
control characters have a letter, every other character that is not printable is written
by its code point, and all others stand for themselves.
-/

namespace ApiCompiler.Text

/-- The lower-case hexadecimal digit of a number below sixteen. -/
def hexDigit (n : Nat) : Char :=
  if n < 10 then Char.ofNat (0x30 + n) else Char.ofNat (0x57 + n)

/-- The last `width` hexadecimal digits of a number, the most significant first. -/
def hexDigits : Nat → Nat → List Char
  | 0, _ => []
  | width + 1, n => hexDigits width (n / 16) ++ [hexDigit (n % 16)]

namespace Quoted

/-- The control characters that are written with a letter. -/
def letters : List (Char × Char) :=
  [('\x07', 'a'), ('\x08', 'b'), ('\x0c', 'f'), ('\n', 'n'), ('\r', 'r'), ('\t', 't'),
    ('\x0b', 'v')]

/-- A character written by its code point. -/
def codePoint (c : Char) : List Char :=
  if c.toNat < 0x80 then '\\' :: 'x' :: hexDigits 2 c.toNat
  else if c.toNat < 0x10000 then '\\' :: 'u' :: hexDigits 4 c.toNat
  else '\\' :: 'U' :: hexDigits 8 c.toNat

/-- One character between double quotes. -/
def escape (c : Char) : List Char :=
  if c = '"' ∨ c = '\\' then ['\\', c]
  else if isPrintable c then [c]
  else match letters.lookup c with
    | some letter => ['\\', letter]
    | none => codePoint c

/-- The characters between the quotes. -/
def encode (cs : List Char) : List Char :=
  cs.flatMap escape

end Quoted

/-- A text in double quotes. -/
def quote (s : String) : String :=
  String.ofList ('"' :: Quoted.encode s.toList ++ ['"'])

end ApiCompiler.Text
