import ApiCompiler.OrderedMap
import ApiCompiler.Yaml.Node

/-!
# Fitting nodes to types

Reading a value of a known type out of a node. A node that does not fit is noted and reading
goes on, so that all misfits of a document are reported together; a fault of another sort ends
the reading. A reader starts from the value that was there before, and says whether the node
gave one: a null often leaves what was there.

Some values are read by themselves, with misfits of their own. An alias may stand for a node
around it, but one reading cannot enter an alias twice, and not too much of it may come from
aliases.
-/

namespace ApiCompiler.Yaml

open Decimal Text

/-- What a reading takes place in. -/
structure Surroundings where
  anchored : Array Node
  /-- How deep a reading can go. -/
  depth : Nat
  /-- Unknown keys are noted. -/
  strict : Bool
  /-- The aliases that were entered. -/
  entered : List Nat

/-- What a reading keeps count of. -/
structure Tally where
  /-- The misfits, the latest last. -/
  misfits : List String
  /-- How many nodes were read. -/
  nodes : Nat
  /-- How many of them were read through an alias. -/
  throughAlias : Nat
  /-- Inside a merge, the keys that count as given. -/
  given : Option (List Value)

namespace Tally

/-- Nothing counted yet. -/
def start : Tally := ⟨[], 0, 0, none⟩

/-- Too much came from aliases: more than 99 of 100 nodes, or fewer in a document with more than
400000 nodes, down to 10 of 100. -/
def isExcessive (t : Tally) : Bool :=
  let allowed := if t.nodes ≤ 400000 then 99 * 3600000
    else if t.nodes ≥ 4000000 then 10 * 3600000
    else 99 * 3600000 - 89 * (t.nodes - 400000)
  t.throughAlias > 100 && t.nodes > 1000 && t.throughAlias * 100 * 3600000 > t.nodes * allowed

end Tally

/-- A reading. -/
abbrev Fit (α : Type) := ReaderT Surroundings (StateT Tally (Except Error)) α

/-- A reader of values: it takes a node that is no alias and the value that was there before, and
gives the new value and whether the node gave one. -/
abbrev Reader (α : Type) := Node → α → Fit (α × Bool)

namespace Fit

variable {α : Type}

/-- Notes misfits. -/
def note (lines : List String) : Fit Unit :=
  modify fun t => { t with misfits := t.misfits ++ lines }

/-- Ends the reading. -/
def fail (e : Error) : Fit α := throw e

/-- Ends the reading because the document is malformed. -/
def malformed : Fit α := fail (.yaml .malformed)

/-- The outcome of a reading by itself: its misfits are an error. -/
def alone (reading : Fit α) (s : Surroundings) : Except Error α := do
  let (value, tally) ← (reading.run { s with entered := [] }).run .start
  if tally.misfits.isEmpty then .ok value else .error (.yaml (.mismatches tally.misfits))

/-- Counts a node. -/
def count : Fit Unit := do
  let here ← read
  let t ← get
  let t := { t with
    nodes := t.nodes + 1
    throughAlias := t.throughAlias + (if here.entered.isEmpty then 0 else 1) }
  if t.isExcessive then malformed
  set t

/-- The node that a node stands for. -/
def targetIn (s : Surroundings) (n : Node) : Node :=
  match n with
  | .aliasOf _ _ _ target => s.anchored.getD target n
  | n => n

/-- The written text in a complaint; a long one is cut after seven bytes. -/
def excerpt (text : String) : String :=
  let cs := text.toList
  if byteCount cs > 10 then " `" ++ String.ofList (firstBytes 7 cs) ++ "...`"
  else " `" ++ text ++ "`"

/-- The complaint that a node is not of a type. Collections are not quoted. -/
def misfit (n : Node) (type : String) : String :=
  let value := if n.tag == seqTag || n.tag == mapTag then "" else excerpt n.text
  s!"line {n.line}: cannot unmarshal {n.tag}{value} into {type}"

/-- The value of a scalar. -/
def scalarValue (tag text : String) : Fit Value :=
  match resolve tag text with
  | .ok (_, value) => return value
  | .error e => fail e

end Fit

namespace Reader

open Fit

variable {α β : Type}

/-- Reads a node, or the one that an alias stands for. -/
def visit (reader : Reader α) : Reader α := fun n before => do
  count
  match n with
  | .aliasOf _ _ number _ =>
    let here ← read
    if here.entered.contains number then malformed
    else
      withReader (fun s => { s with entered := number :: s.entered }) do
        count
        reader (targetIn here n) before
  | n => reader n before

/-- Reads a node by itself. -/
def alone (reader : Reader α) (start : α) (s : Surroundings) (n : Node) : Except Error α := do
  return (← Fit.alone (reader.visit n start) { s with strict := false }).1

/-- Notes that a node is not of a type. For a mapping, keys that are written twice are the
complaint. -/
def refuse (type : String) : Reader α := fun n before => do
  match n with
  | .mapping _ _ entries =>
    match Node.repeatedKeys (entries.map (·.1)) with
    | [] => note [misfit n type]
    | lines => note lines
  | n => note [misfit n type]
  return (before, false)

/-- What a scalar gives as a text: what is written, or the bytes of binary data. -/
def givenText (tag text : String) : RawText :=
  if tag == binaryTag then (Base64.decodeText? text).getD text else text

/-- A reader of texts as they are given. -/
def rawText (type : String) : Reader RawText := fun n before => do
  match n with
  | .scalar _ tag text =>
    match ← scalarValue tag text with
    | .null => return (before, false)
    | _ => return (givenText tag text, true)
  | n => refuse type n before

/-- A reader of texts as they are shown. Names and references are such texts. -/
def text (type : String) : Reader String := fun n before => do
  let (raw, good) ← rawText type n before
  return (raw.shown, good)

/-- A reader of whole numbers. Floats lose their fraction; those beyond the range of 64 bits
become the least number, except that too great ones do not fit. -/
def wholeNumber : Reader Int := fun n before => do
  match n with
  | .scalar _ tag text =>
    match ← scalarValue tag text with
    | .null => return (before, false)
    | .int i => if i < twoTo 63 then return (i, true) else refuse "int" n before
    | .float d =>
      if d.isNaN then refuse "int" n before
      else if d.isInfinite then
        if d.isNegative then return (-(twoTo 63), true) else refuse "int" n before
      else if d.truncate > twoTo 63 then refuse "int" n before
      else if d.truncate ≥ twoTo 63 || d.truncate < -(twoTo 63) then return (-(twoTo 63), true)
      else return (d.truncate, true)
    | _ => refuse "int" n before
  | n => refuse "int" n before

/-- A reader of lists. Items without a value are left out. -/
def list (type : String) (item : Reader α) (start : α) : Reader (Option (List α)) :=
  fun n before => do
    match n with
    | .sequence _ _ items =>
      let values ← items.mapM fun i => item.visit i start
      return (some ((values.filter (·.2)).map (·.1)), true)
    | .scalar _ tag text =>
      match ← scalarValue tag text with
      | .null => return (none, true)
      | _ => refuse type n before
    | n => refuse type n before

/-- A reader of something that a null removes. -/
def optional (type : String) (reader : Reader α) (start : α) : Reader (Option α) :=
  fun n before => do
    if n.isNull then
      match n with
      | .scalar _ tag text =>
        let _ ← scalarValue tag text
        return (none, true)
      | n => refuse ("*" ++ type) n before
    else
      let (value, good) ← reader n (before.getD start)
      return (some value, good)

/-- Something that is read by itself. Its misfits count for the reading around it. -/
def embedded (read : Surroundings → Node → Except Error α) : Reader α := fun n before => do
  match read (← readThe Surroundings) n with
  | .ok value => return (value, true)
  | .error (.yaml (.mismatches lines)) =>
    note lines
    return (before, false)
  | .error e => fail e

/-- A reader whose nulls are read by another one. -/
def orNull (null other : Reader α) : Reader α := fun n before =>
  if n.isNull then null n before else other n before

end Reader

/-- What reading a mapping into an ordered map leaves: the entries before a fault, and the
fault. -/
structure MapReading (V : Type) where
  entries : OrderedMap V
  fault : Option Error

namespace MapReading

variable {V : Type}

/-- Reads entries one after the other, of each the key first. -/
def readEntries (readKey : Node → Except Error String) (readValue : Node → Except Error V) :
    OrderedMap V → List (Node × Node) → MapReading V
  | m, [] => ⟨m, none⟩
  | m, (k, v) :: rest =>
    match readKey k with
    | .error e => ⟨m, some e⟩
    | .ok key =>
      if m.contains key then ⟨m, some (.yaml (.repeatedKey k.line key))⟩
      else
        match readValue v with
        | .error e => ⟨m, some (.within key e)⟩
        | .ok value => readEntries readKey readValue (m.insert key value) rest

/-- Reads a mapping over an existing map, which stays if the node is no mapping. -/
def ofMapping (readKey : Node → Except Error String) (readValue : Node → Except Error V)
    (before : OrderedMap V) (n : Node) : MapReading V :=
  match n with
  | .mapping _ _ entries => readEntries readKey readValue OrderedMap.empty entries
  | n => ⟨before, some (.yaml (.notMapping n.line n.kindName))⟩

/-- Reads a mapping over an existing map, each key and each value by itself. -/
def ofNode (read : Surroundings → Node → Except Error V) (before : OrderedMap V)
    (s : Surroundings) (n : Node) : MapReading V :=
  ofMapping ((Reader.text "string").alone "" s) (read s) before n

/-- The map, if there was no fault. -/
def toExcept (r : MapReading V) : Except Error (OrderedMap V) :=
  match r.fault with
  | none => .ok r.entries
  | some e => .error e

end MapReading

/-- A reader of ordered maps, each value of which is read by itself. -/
def Reader.orderedMap {V : Type} (read : Surroundings → Node → Except Error V) :
    Reader (OrderedMap V) :=
  Reader.embedded fun s n => (MapReading.ofNode read OrderedMap.empty s n).toExcept

/-- The surroundings of a document. -/
def Document.surroundings (d : Document) (strict : Bool) : Surroundings :=
  ⟨d.anchored, d.depth, strict, []⟩

/-- Reads the first document of a text; a text without one leaves the start. -/
def Reader.ofText {α : Type} (reader : Reader α) (start : α) (strict : Bool) (text : String)
    (parse : String → Except Error (Option Document)) : Except Error α := do
  match ← parse text with
  | none => return start
  | some d =>
    return (← Fit.alone (do Fit.count; reader.visit d.root start) (d.surroundings strict)).1

end ApiCompiler.Yaml
