import ApiCompiler.Decimal.Double

/-!
# The shortest decimal that reads back

The decimal with the fewest digits among those that round to a given double and, of those, the
nearest to it. For one digit, two digits and so on, the two neighbours of the value on the
decimal grid are tested against the interval of reals that round to it; the first grid with
a hit wins.

Two layouts write the digits: the general one, used for literals, and the one of JSON documents.
They differ in where positional digits end and in the exponent.
-/

namespace ApiCompiler.Decimal

/-- `digits · 10 ^ exponent`. -/
structure Scientific where
  digits : Nat
  exponent : Int
deriving DecidableEq, Repr

namespace Shortest

/-- Compares `a · 10 ^ u` with `b · 2 ^ q` exactly. -/
def compareScaled (a : Nat) (u : Int) (b : Nat) (q : Int) : Ordering :=
  let left := a * (if u ≥ 0 then tenTo u.toNat else 1) * (if q < 0 then twoTo (-q).toNat else 1)
  let right := b * (if q ≥ 0 then twoTo q.toNat else 1) * (if u < 0 then tenTo (-u).toNat else 1)
  compare left right

/-- The interval of reals that round to `m · 2 ^ q`, with ends in quarters of the last place.
The lower half is narrower above a power of two. The ends belong to it if `m` is even. -/
def rounds (m : Nat) (q : Int) (a : Nat) (u : Int) : Bool :=
  let low := if m == twoTo 52 && q > -1074 then 4 * m - 1 else 4 * m - 2
  let high := 4 * m + 2
  let closed := m % 2 == 0
  let above := compareScaled a u low (q - 2)
  let below := compareScaled a u high (q - 2)
  (above == .gt || (closed && above == .eq)) && (below == .lt || (closed && below == .eq))

/-- The greatest grid point `a · 10 ^ u` that is not above `m · 2 ^ q`. -/
def floorOnGrid (m : Nat) (q u : Int) : Nat :=
  let num := m * (if q ≥ 0 then twoTo q.toNat else 1) * (if u < 0 then tenTo (-u).toNat else 1)
  let den := (if q < 0 then twoTo (-q).toNat else 1) * (if u ≥ 0 then tenTo u.toNat else 1)
  num / den

/-- The decimal exponent of the leading digit of `m · 2 ^ q`, for a positive `m`. -/
def leadingExponent (m : Nat) (q : Int) : Int :=
  let size : Int := Nat.log2 m + q
  -- the logarithm to base ten is within one of this estimate
  let guess : Int := size * 30103 / 100000
  let candidates := [guess + 1, guess, guess - 1]
  match candidates.find? fun e => compareScaled 1 e m q != .gt with
  | some e => e
  | none => guess - 2

/-- The better of the two neighbours on the grid of `10 ^ u`, if one rounds to the value. -/
def onGrid (m : Nat) (q u : Int) : Option Nat :=
  let low := floorOnGrid m q u
  let high := low + 1
  match rounds m q low u && low != 0, rounds m q high u with
  | true, true =>
    -- twice the middle of the grid step against twice the value
    match compareScaled (2 * low + 1) u (2 * m) q with
    | .lt => some high
    | .gt => some low
    | .eq => some (if low % 2 == 0 then low else high)
  | true, false => some low
  | false, true => some high
  | false, false => none

/-- Moves the zeros at the end of the digits into the exponent. -/
def strip : Nat → Scientific → Scientific
  | 0, s => s
  | fuel + 1, s =>
    if s.digits % 10 == 0 && s.digits != 0 then strip fuel ⟨s.digits / 10, s.exponent + 1⟩ else s

/-- The first grid, from one digit on, with a point that rounds to the value. -/
def search (m : Nat) (q lead : Int) : Nat → Nat → Scientific
  | 0, count => ⟨floorOnGrid m q (lead - count), lead - count⟩
  | fuel + 1, count =>
    let u := lead - count
    match onGrid m q u with
    | some a => strip 20 ⟨a, u⟩
    | none => search m q lead fuel (count + 1)

end Shortest

/-- The shortest decimal that reads back as a finite double, without its sign. -/
def shortest (d : Double) : Scientific :=
  if d.mantissa == 0 then ⟨0, 0⟩
  else Shortest.search d.mantissa d.power (Shortest.leadingExponent d.mantissa d.power) 18 0

/-! ## Texts -/

/-- Where a layout writes positional digits, and how it writes exponents. -/
structure Layout where
  /-- The least decimal exponent of the leading digit that is written positionally. -/
  least : Int
  /-- The greatest one. -/
  greatest : Int
  /-- The least number of digits of a negative exponent. -/
  negativeWidth : Nat

/-- Literals: positional from `10 ^ -4` and below `10 ^ 6`; two digits of exponent. -/
def Layout.general : Layout := ⟨-4, 5, 2⟩

/-- Documents: positional from `10 ^ -6` and below `10 ^ 21`; no padding of a negative
exponent. -/
def Layout.document : Layout := ⟨-6, 20, 1⟩

/-- Decimal digits with zeros in front up to a width. -/
def padded (width n : Nat) : List Char :=
  let digits := Nat.toDigits 10 n
  List.replicate (width - digits.length) '0' ++ digits

/-- Digits and a decimal exponent, written by a layout. -/
def Layout.write (layout : Layout) (s : Scientific) : List Char :=
  let digits := Nat.toDigits 10 s.digits
  let lead : Int := s.exponent + digits.length - 1
  if s.digits == 0 then ['0']
  else if lead < layout.least || lead > layout.greatest then
    let fraction := match digits.tail with
      | [] => []
      | rest => '.' :: rest
    let exponent := if lead < 0 then '-' :: padded layout.negativeWidth lead.natAbs
      else '+' :: padded 2 lead.natAbs
    digits.take 1 ++ fraction ++ 'e' :: exponent
  else if lead < 0 then '0' :: '.' :: List.replicate (lead.natAbs - 1) '0' ++ digits
  else if s.exponent ≥ 0 then digits ++ List.replicate s.exponent.toNat '0'
  else digits.take (lead.toNat + 1) ++ '.' :: digits.drop (lead.toNat + 1)

/-- The text of a double in a layout. -/
def Layout.text (layout : Layout) (d : Double) : String :=
  if d.isNaN then "NaN"
  else if d.isInfinite then (if d.isNegative then "-Inf" else "+Inf")
  else
    let digits := layout.write (shortest d)
    String.ofList (if d.isNegative then '-' :: digits else digits)

end ApiCompiler.Decimal
