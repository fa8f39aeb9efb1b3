import ApiCompiler.Text.Split
import ApiCompiler.Timestamp

/-!
# Plain data values

The values that a document can write without a declared type: the defaults of fields. A mapping
whose keys are all texts is a `map`; any other mapping is a `table`.
-/

namespace ApiCompiler

open Decimal Text

/-- A plain value. -/
inductive Value where
  | null
  | bool (b : Bool)
  | int (i : Int)
  | float (d : Double)
  | str (s : String)
  | time (t : Timestamp)
  | list (items : List Value)
  | map (entries : List (String × Value))
  | table (entries : List (Value × Value))
deriving Inhabited, Repr

namespace Value

mutual

/-- Two values are the same. -/
def beq : Value → Value → Bool
  | null, null => true
  | bool a, bool b => a == b
  | int a, int b => a == b
  | float a, float b => a == b
  | str a, str b => a == b
  | time a, time b => a == b
  | list a, list b => beqAll a b
  | map a, map b => beqEntries a b
  | table a, table b => beqTable a b
  | _, _ => false

/-- Two lists hold the same values. -/
def beqAll : List Value → List Value → Bool
  | [], [] => true
  | v :: rest, w :: others => v.beq w && beqAll rest others
  | _, _ => false

/-- Two maps hold the same entries in the same order. -/
def beqEntries : List (String × Value) → List (String × Value) → Bool
  | [], [] => true
  | (k, v) :: rest, (l, w) :: others => k == l && v.beq w && beqEntries rest others
  | _, _ => false

/-- Two tables hold the same entries in the same order. -/
def beqTable : List (Value × Value) → List (Value × Value) → Bool
  | [], [] => true
  | (k, v) :: rest, (l, w) :: others => k.beq l && v.beq w && beqTable rest others
  | _, _ => false

end

instance : BEq Value := ⟨beq⟩

/-- Entries in the order of their keys. -/
def sortedEntries {V : Type} (entries : List (String × V)) : List (String × V) :=
  entries.mergeSort fun a b => le a.1 b.1

/-- The place of a key of a table among keys of other types. -/
def keyRank : Value → Nat
  | null => 0
  | str _ => 1
  | int _ => 2
  | float _ => 3
  | bool _ => 4
  | _ => 5

/-- The order of keys of a table: by value among keys of one type. -/
def keyLe (a b : Value) : Bool :=
  match a, b with
  | int i, int j => i ≤ j
  | str s, str t => le s t
  | bool p, bool q => !p || q
  | time t, time u => t.keyLe u
  | float d, float e =>
    if d.isNaN then true
    else if e.isNaN then false
    else
      let key (x : Double) : Int :=
        let size : Int := ((x.bits.toNat % twoTo 63 : Nat) : Int)
        if x.isNegative then -size else size
      key d ≤ key e
  | a, b => a.keyRank ≤ b.keyRank

/-- Two keys are one key: zeros of both signs are, and a NaN is no key but itself. -/
def sameKey (a b : Value) : Bool :=
  match a, b with
  | float d, float e => !d.isNaN && !e.isNaN && (d == e || (d.isZero && e.isZero))
  | a, b => a == b

mutual

/-- A value in the plain display form, e.g. `map[1:b 2:a]`. -/
def display : Value → String
  | null => "<nil>"
  | bool b => if b then "true" else "false"
  | int i => toString i
  | float d => Layout.general.text d
  | str s => s
  | time t => t.displayText
  | list items => "[" ++ joinWith " " (displayAll items) ++ "]"
  | map entries =>
    "map[" ++ joinWith " "
      ((sortedEntries (displayEntries entries)).map fun (k, v) => k ++ ":" ++ v) ++ "]"
  | table entries =>
    "map[" ++ joinWith " "
      (((displayTable entries).mergeSort fun a b => keyLe a.1 b.1).map (·.2)) ++ "]"

/-- The display forms of several values. -/
def displayAll : List Value → List String
  | [] => []
  | v :: rest => v.display :: displayAll rest

/-- The display forms of the values of a map. -/
def displayEntries : List (String × Value) → List (String × String)
  | [] => []
  | (k, v) :: rest => (k, v.display) :: displayEntries rest

/-- The keys of a table with the display forms of its entries. -/
def displayTable : List (Value × Value) → List (Value × String)
  | [] => []
  | (k, v) :: rest => (k, k.display ++ ":" ++ v.display) :: displayTable rest

end

end Value

end ApiCompiler
