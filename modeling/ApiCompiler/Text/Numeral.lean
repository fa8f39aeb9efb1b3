import ApiCompiler.Decimal.Double

/-!
# Numerals

Whole numbers written in a base, with or without a sign, and the bounds of 64 bits. Digits
above nine are letters of either case.
-/

namespace ApiCompiler.Text

/-- The value of a digit; letters count on from ten. -/
def digitValue? (c : Char) : Option Nat :=
  if '0' ≤ c && c ≤ '9' then some (c.toNat - 0x30)
  else if 'a' ≤ c && c ≤ 'z' then some (c.toNat - 0x57)
  else if 'A' ≤ c && c ≤ 'Z' then some (c.toNat - 0x37)
  else none

/-- The number that digits of a base write, continued from `n`. -/
def numeralFrom (base : Nat) : Nat → List Char → Option Nat
  | n, [] => some n
  | n, c :: rest =>
    match digitValue? c with
    | some d => if d < base then numeralFrom base (n * base + d) rest else none
    | none => none

/-- The number that digits of a base write; there is at least one. -/
def numeral? (base : Nat) (cs : List Char) : Option Nat :=
  if cs.isEmpty then none else numeralFrom base 0 cs

/-- A number whose base is announced by `0x`, `0o`, `0b` or a leading zero. -/
def prefixedNumeral? (cs : List Char) : Option Nat :=
  match cs with
  | '0' :: mark :: d :: rest =>
    if mark == 'x' || mark == 'X' then numeral? 16 (d :: rest)
    else if mark == 'o' || mark == 'O' then numeral? 8 (d :: rest)
    else if mark == 'b' || mark == 'B' then numeral? 2 (d :: rest)
    else numeral? 8 (mark :: d :: rest)
  | '0' :: d :: rest => numeral? 8 (d :: rest)
  | cs => numeral? 10 cs

/-- A sign, if there is one, and what follows it. -/
def cutSign : List Char → Bool × List Char
  | '-' :: rest => (true, rest)
  | '+' :: rest => (false, rest)
  | cs => (false, cs)

/-- A number with an optional sign that fits into 64 bits in two's complement. -/
def signed64? (read : List Char → Option Nat) (cs : List Char) : Option Int :=
  let (negative, digits) := cutSign cs
  match read digits with
  | none => none
  | some n =>
    if negative then (if n ≤ Decimal.twoTo 63 then some (-(n : Int)) else none)
    else if n < Decimal.twoTo 63 then some n
    else none

/-- A number without a sign that fits into 64 bits. -/
def unsigned64? (read : List Char → Option Nat) (cs : List Char) : Option Int :=
  match read cs with
  | none => none
  | some n => if n < Decimal.twoTo 64 then some n else none

end ApiCompiler.Text
