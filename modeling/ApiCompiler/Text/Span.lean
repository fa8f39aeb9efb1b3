/-!
# Spans of code points

Tables of Unicode properties are lists of spans: every `step`-th code point between two
ends. A case mapping is a list of shifts, each moving one span by a constant distance.

All tables are those of Unicode 17.0, the edition that the compiler was built and tested with.
It could be built with older tables, too, down to Unicode 15.0, in which U+1C8A and its upper case
U+1C89 are not assigned.
-/

namespace ApiCompiler.Text

/-- The code points `first`, `first + step`, … up to `last`. -/
structure Span where
  first : Nat
  last : Nat
  step : Nat

namespace Span

/-- Membership in one span. -/
def contains (s : Span) (n : Nat) : Bool :=
  s.first ≤ n && n ≤ s.last && (n - s.first) % s.step == 0

/-- Membership in a list of spans. -/
def covers (spans : List Span) (n : Nat) : Bool :=
  spans.any (·.contains n)

end Span

/-- The code points of a span, each moved by `offset`. -/
structure Shift where
  first : Nat
  last : Nat
  step : Nat
  offset : Int

namespace Shift

/-- The code points that a shift moves. -/
def span (s : Shift) : Span := ⟨s.first, s.last, s.step⟩

/-- Moves a character by the first shift whose span holds it. -/
def move (shifts : List Shift) (c : Char) : Char :=
  match shifts.find? (·.span.contains c.toNat) with
  | some s => Char.ofNat (c.toNat + s.offset).toNat
  | none => c

end Shift

end ApiCompiler.Text
