/-!
# Bytes in UTF-8

The bytes of a text, and reading bytes as characters. A byte that belongs to no character becomes
the replacement character, each by itself.
-/

namespace ApiCompiler.Text.Utf8

/-- The bytes of a text. -/
def encode (s : String) : List UInt8 := s.toUTF8.data.toList

/-- The number of bytes behind the first byte of a character and what that byte contributes. -/
def lead? (byte : Nat) : Option (Nat × Nat) :=
  if byte < 0x80 then some (0, byte)
  else if 0xC0 ≤ byte && byte < 0xE0 then some (1, byte % 0x20)
  else if 0xE0 ≤ byte && byte < 0xF0 then some (2, byte % 0x10)
  else if 0xF0 ≤ byte && byte < 0xF8 then some (3, byte % 0x08)
  else none

/-- The least code point with a number of bytes behind the first; smaller ones are overlong. -/
def least : Nat → Nat
  | 0 => 0
  | 1 => 0x80
  | 2 => 0x800
  | _ => 0x10000

/-- The code point of continued bytes. -/
def continued? (n : Nat) : List Nat → Option Nat
  | [] => some n
  | b :: rest => if 0x80 ≤ b && b < 0xC0 then continued? (n * 64 + b % 64) rest else none

/-- The character at the beginning of some bytes and the number of bytes behind its first. -/
def char? : List Nat → Option (Char × Nat)
  | [] => none
  | b :: rest => do
    let (count, head) ← lead? b
    guard (count ≤ rest.length)
    let n ← continued? head (rest.take count)
    guard (least count ≤ n && n.isValidChar)
    return (Char.ofNat n, count)

/-- The characters of some bytes, and nothing for every byte that belongs to none. -/
def piecesFrom : Nat → List Nat → List (Option Char)
  | 0, _ => []
  | _, [] => []
  | fuel + 1, b :: rest =>
    match char? (b :: rest) with
    | some (c, count) => some c :: piecesFrom fuel (rest.drop count)
    | none => none :: piecesFrom fuel rest

/-- The characters of bytes, and nothing for every byte that belongs to none. -/
def pieces (bytes : List Nat) : List (Option Char) := piecesFrom bytes.length bytes

/-- The text of some bytes. -/
def decode (bytes : List Nat) : String :=
  String.ofList ((pieces bytes).map fun piece => piece.getD '\uFFFD')

theorem decode_cons_ne_empty (b : Nat) (rest : List Nat) : decode (b :: rest) ≠ "" := by
  intro empty
  have pieces : pieces (b :: rest) = [] :=
    List.map_eq_nil_iff.mp (String.ofList_eq_empty_iff.mp empty)
  simp only [Utf8.pieces, List.length_cons, piecesFrom] at pieces
  split at pieces
  · exact nomatch pieces
  · exact nomatch pieces

end ApiCompiler.Text.Utf8
