import ApiCompiler.Yaml.Fit
import ApiCompiler.Yaml.Node.OfTokens

/-!
# Plain values of nodes

Reading a node without a declared type. A mapping whose keys are all texts becomes a map from
texts; any other mapping becomes a table. A mapping can merge others: their entries count where
it has none itself.
-/

namespace ApiCompiler.Yaml

open Fit

/-- The node under the last merge key. -/
def mergedNode? (entries : List (Node × Node)) : Option Node :=
  ((entries.filter (·.1.isMerge)).getLast?).map (·.2)

/-- All keys of a mapping are texts. -/
def hasTextKeys (s : Surroundings) (entries : List (Node × Node)) : Bool :=
  entries.all fun (k, _) => [strTag, mergeTag].contains (targetIn s k).tag

/-- Stores a value under a key, in the place of an equal one. -/
def putValue : List (Value × Value) → Value → Value → List (Value × Value)
  | [], key, value => [(key, value)]
  | (k, v) :: rest, key, value =>
    if k.sameKey key then (key, value) :: rest else (k, v) :: putValue rest key value

/-- The value of a collection of entries. -/
def collected (textual : Bool) (entries : List (Value × Value)) : Value :=
  if textual then
    .map (entries.map fun (k, v) =>
      match k with
      | .str s => (s, v)
      | k => (k.display, v))
  else .table entries

/-- A value that cannot be a key. -/
def isCollection : Value → Bool
  | .list _ => true
  | .map _ => true
  | .table _ => true
  | _ => false

/-- Takes a key inside a merge, unless it counts as given. -/
def takeKey (given : Option (List Value)) (key : Value) : Option (Option (List Value)) :=
  match given with
  | none => some none
  | some keys => if keys.any key.sameKey then none else some (some (key :: keys))

/-- Takes the given keys away from the nodes inside a mapping. -/
def takeGiven : Fit (Option (List Value)) := do
  let t ← get
  set { t with given := none }
  return t.given

/-- Puts the given keys back. -/
def putGiven (given : Option (List Value)) : Fit Unit := modify fun t => { t with given }

/-- Merges a node, which is a mapping or a list of mappings, into a value. The keys of the
mapping around it count as given. -/
def merge {α : Type} (plain : Reader Value) (reader : Reader α) (keys : List Node) (n : Node)
    (before : α) : Fit α := do
  let here ← read
  let outer := (← get).given
  if outer.isNone then
    let given ← keys.mapM fun k => plain.visit k .null
    let given := (given.filter (·.2)).map (·.1)
    if given.any isCollection then malformed
    putGiven (some given)
  let one := fun (n : Node) (value : α) => do
    if (targetIn here n).isMapping then return (← reader.visit n value).1 else malformed
  let value ← match n with
    | .sequence _ _ items => items.foldlM (fun value i => one i value) before
    | n => one n before
  if outer.isNone then putGiven none
  return value

mutual

/-- Reads a node as a plain value. -/
def untypedFrom : Nat → Reader Value
  | 0 => fun _ _ => malformed
  | depth + 1 => fun n before => do
    match n with
    | .scalar _ tag text => return (← scalarValue tag text, true)
    | .sequence _ _ items =>
      let values ← items.mapM fun i => Reader.visit (untypedFrom depth) i .null
      return (.list ((values.filter (·.2)).map (·.1)), true)
    | .mapping _ _ entries =>
      let textual := hasTextKeys (← read) entries
      let (entries, good) ← tableFrom depth textual n []
      return (if good then collected textual entries else before, good)
    | .aliasOf _ _ _ _ => malformed

/-- Adds the entries of a mapping to a table. -/
def tableFrom : Nat → Bool → Reader (List (Value × Value))
  | 0, _ => fun _ _ => malformed
  | depth + 1, textual => fun n before => do
    match n with
    | .mapping _ _ entries =>
      match Node.repeatedKeys (entries.map (·.1)) with
      | [] =>
        let plain := untypedFrom depth
        let keyReader : Reader Value := if textual then
            fun n _ => do
              let (s, good) ← Reader.text "string" n ""
              return (.str s, good)
          else plain
        let given ← takeGiven
        let (out, given) ← entries.foldlM (fun (out, given) (k, v) => do
          if k.isMerge then return (out, given)
          let (key, good) ← keyReader.visit k .null
          if !good then return (out, given)
          match takeKey given key with
          | none => return (out, given)
          | some given =>
            if isCollection key then malformed
            let (value, good) ← plain.visit v .null
            return (if good then putValue out key value else out, given)) (before, given)
        putGiven given
        match mergedNode? entries with
        | none => return (out, true)
        | some m =>
          let out ← merge plain (tableFrom depth textual) (entries.map (·.1)) m out
          return (out, true)
      | lines =>
        note lines
        return (before, false)
    | _ => malformed

end

/-- A reader of plain values. -/
def untyped : Reader Value := fun n before => do
  untypedFrom (← read).depth n before

/-- The plain value of a document; null without one. -/
def readValue (text : String) : Except Error Value :=
  untyped.ofText .null false text Document.parse

end ApiCompiler.Yaml
