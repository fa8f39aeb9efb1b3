import ApiCompiler.Yaml.Untyped

/-!
# Records

Reading a mapping with known keys. A mapping offers its own entries first and then, under
the merge key, the entries of other mappings whose keys it does not have itself.
-/

namespace ApiCompiler.Yaml

open Fit

/-- A record under construction: how a key changes it, if the key is known. -/
structure RecordType (R : Type) where
  /-- The name of the type in complaints. -/
  name : String
  start : R
  set : String → Option (Node → R → Fit R)

/-- How a node changes a part of a record. -/
def part {R α : Type} (reader : Reader α) (get : R → α) (put : α → R → R) : Node → R → Fit R :=
  fun n record => do return put (← reader.visit n (get record)).1 record

namespace RecordType

variable {R : Type}

/-- What the entries of one mapping leave: the record, the keys that were set, and the keys that
count as given. -/
structure Progress (R : Type) where
  record : R
  done : List String
  given : Option (List Value)

/-- Takes up one entry of a mapping. -/
def takeEntry (type : RecordType R) (p : Progress R) (entry : Node × Node) :
    Fit (Progress R) := do
  let (k, v) := entry
  if k.isMerge then return p
  let (key, good) ← Reader.visit (Reader.text "string") k ""
  if !good then return p
  match takeKey p.given (.str key) with
  | none => return p
  | some given =>
    let p := { p with given }
    match type.set key with
    | some set =>
      if p.done.contains key then
        note [s!"line {k.line}: field {key} already set in type {type.name}"]
        return p
      else
        return { p with record := ← set v p.record, done := key :: p.done }
    | none =>
      if (← read).strict then
        note [s!"line {k.line}: field {key} not found in type {type.name}"]
      return p

/-- Reads a record, with merged mappings down to a depth. -/
def readFrom (type : RecordType R) : Nat → Reader R
  | 0 => fun _ _ => malformed
  | depth + 1 => fun n before => do
    match n with
    | .mapping _ _ entries =>
      match Node.repeatedKeys (entries.map (·.1)) with
      | [] =>
        let p ← entries.foldlM type.takeEntry ⟨before, [], ← takeGiven⟩
        putGiven p.given
        match mergedNode? entries with
        | none => return (p.record, true)
        | some m =>
          let record ← merge untyped (type.readFrom depth) (entries.map (·.1)) m p.record
          return (record, true)
      | lines =>
        note lines
        return (before, false)
    | .scalar _ tag text =>
      match ← scalarValue tag text with
      | .null => return (before, false)
      | _ => Reader.refuse type.name n before
    | n => Reader.refuse type.name n before

/-- A reader of records. -/
def reader (type : RecordType R) : Reader R := fun n before => do
  type.readFrom (← read).depth n before

/-- Reads a record by itself. -/
def readAlone (type : RecordType R) : Surroundings → Node → Except Error R :=
  type.reader.alone type.start

/-- A reader of a record that a null removes. -/
def optional (type : RecordType R) : Reader (Option R) :=
  type.reader.optional type.name type.start

end RecordType

end ApiCompiler.Yaml
