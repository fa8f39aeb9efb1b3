import ApiCompiler.Text.RawText

/-!
# Base 64

Texts that stand for bytes. Four characters give three bytes; the last group may be filled up
with equals signs. Line breaks do not count.
-/

namespace ApiCompiler.Text.Base64

/-- The value of a character, below 64. -/
def digit? (c : Char) : Option Nat :=
  if 'A' ≤ c && c ≤ 'Z' then some (c.toNat - 'A'.toNat)
  else if 'a' ≤ c && c ≤ 'z' then some (c.toNat - 'a'.toNat + 26)
  else if '0' ≤ c && c ≤ '9' then some (c.toNat - '0'.toNat + 52)
  else if c = '+' then some 62
  else if c = '/' then some 63
  else none

/-- The first `count` bytes of the three that four values give. -/
def bytesOf (a b c d count : Nat) : List UInt8 :=
  let n := ((a * 64 + b) * 64 + c) * 64 + d
  [(n / 65536).toUInt8, (n / 256 % 256).toUInt8, (n % 256).toUInt8].take count

/-- The bytes of a text without line breaks. -/
def groups? : List Char → Option (List UInt8)
  | [] => some []
  | a :: b :: c :: d :: rest => do
    let a ← digit? a
    let b ← digit? b
    if rest.isEmpty && c = '=' && d = '=' then return bytesOf a b 0 0 1
    let c ← digit? c
    if rest.isEmpty && d = '=' then return bytesOf a b c 0 2
    let d ← digit? d
    let more ← groups? rest
    return bytesOf a b c d 3 ++ more
  | _ => none

/-- The bytes that a text stands for. -/
def decode? (text : String) : Option (List UInt8) :=
  groups? (text.toList.filter fun c => c != '\n' && c != '\r')

/-- The raw text whose bytes a text stands for. -/
def decodeText? (text : String) : Option RawText := (decode? text).map .ofBytes

end ApiCompiler.Text.Base64
