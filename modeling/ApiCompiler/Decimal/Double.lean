/-!
# Binary floating point, exactly

A double is kept as its 64 bits. A finite one is `± m · 2 ^ q` with natural `m`. Reading a
decimal rounds the exact quotient to the nearest double, and a half to the even neighbour.
-/

namespace ApiCompiler.Decimal

/-- A power of two. -/
def twoTo (n : Nat) : Nat := Nat.pow 2 n

/-- A power of ten. -/
def tenTo (n : Nat) : Nat := Nat.pow 10 n

/-- A 64-bit floating-point number by its bits. -/
structure Double where
  bits : UInt64
deriving DecidableEq, Repr

namespace Double

/-- The sign bit. -/
def isNegative (d : Double) : Bool := d.bits.toNat / twoTo 63 == 1

/-- The eleven bits of the exponent. -/
def exponentBits (d : Double) : Nat := d.bits.toNat / twoTo 52 % 2048

/-- The fifty-two bits of the fraction. -/
def fractionBits (d : Double) : Nat := d.bits.toNat % twoTo 52

/-- Not a number. -/
def isNaN (d : Double) : Bool := d.exponentBits == 2047 && d.fractionBits != 0

/-- A zero of either sign. -/
def isZero (d : Double) : Bool := d.exponentBits == 0 && d.fractionBits == 0

/-- Positive or negative infinity. -/
def isInfinite (d : Double) : Bool := d.exponentBits == 2047 && d.fractionBits == 0

/-- Neither infinite nor not a number. -/
def isFinite (d : Double) : Bool := d.exponentBits != 2047

/-- The natural factor `m` of a finite double. -/
def mantissa (d : Double) : Nat :=
  if d.exponentBits == 0 then d.fractionBits else twoTo 52 + d.fractionBits

/-- The power `q` of two of a finite double. -/
def power (d : Double) : Int :=
  if d.exponentBits == 0 then -1074 else d.exponentBits - 1075

/-- The double with a sign, an exponent field and a fraction field. -/
def ofFields (negative : Bool) (exponent fraction : Nat) : Double :=
  ⟨UInt64.ofNat ((if negative then twoTo 63 else 0) + exponent * twoTo 52 + fraction)⟩

/-- An infinity. -/
def infinity (negative : Bool) : Double := ofFields negative 2047 0

/-- The value that is not a number. -/
def nan : Double := ofFields false 2047 (twoTo 51 + 1)

/-- A zero. -/
def zero (negative : Bool) : Double := ofFields negative 0 0

/-- The nearest natural number to a quotient, a half to the even one. -/
def roundDiv (num den : Nat) : Nat :=
  let low := num / den
  let rest := num % den
  if 2 * rest < den then low
  else if 2 * rest > den then low + 1
  else if low % 2 == 0 then low else low + 1

/-- The double nearest to `num / den`, for a positive `den`. -/
def ofRatio (negative : Bool) (num den : Nat) : Double :=
  if num == 0 then zero negative
  else
    let scaled (q : Int) : Nat :=
      if q ≥ 0 then roundDiv num (den * twoTo q.toNat) else roundDiv (num * twoTo (-q).toNat) den
    let guess : Int := (Nat.log2 num : Int) - Nat.log2 den - 53
    let q₀ : Int := max guess (-1074)
    -- the guess is at most two below the right power
    let q₁ := if scaled q₀ < twoTo 53 then q₀ else q₀ + 1
    let q₂ := if scaled q₁ < twoTo 53 then q₁ else q₁ + 1
    let m := scaled q₂
    if m < twoTo 52 then ofFields negative 0 m
    else
      let exponent := q₂ + 1075
      if exponent ≥ 2047 then infinity negative else ofFields negative exponent.toNat (m - twoTo 52)

/-- The double nearest to `digits · 10 ^ exponent`. Exponents far outside the range of doubles
are decided without computing the power. -/
def ofDecimal (negative : Bool) (digits : Nat) (exponent : Int) : Double :=
  if digits == 0 then zero negative
  else
    let size : Int := (Nat.toDigits 10 digits).length + exponent
    if size > 400 then infinity negative
    else if size < -400 then zero negative
    else if exponent ≥ 0 then ofRatio negative (digits * tenTo exponent.toNat) 1
    else ofRatio negative digits (tenTo (-exponent).toNat)

/-- The double nearest to an integer. -/
def ofInt (i : Int) : Double := ofRatio (i < 0) i.natAbs 1

/-- The integer part of a finite double. -/
def truncate (d : Double) : Int :=
  let size := if d.power ≥ 0 then d.mantissa * twoTo d.power.toNat
    else d.mantissa / twoTo (-d.power).toNat
  if d.isNegative then -size else size

end Double

end ApiCompiler.Decimal
