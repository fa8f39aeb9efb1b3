import ApiCompiler.Yaml.Fit
import ApiCompiler.Yaml.Node.OfTokens

/-!
# Documents that are one mapping

Reading a whole document into an ordered map of texts or of whole numbers.
-/

namespace ApiCompiler.Yaml

/-- A text by itself; a null is the empty one. -/
def readText : Surroundings → Node → Except Error String := (Reader.text "string").alone ""

/-- A whole number by itself; a null is zero. -/
def readWholeNumber : Surroundings → Node → Except Error Int := Reader.wholeNumber.alone 0

/-- Reads a document over an existing map. A document without content, or a null, leaves the map
as it is. `type` is the type of its values. -/
def MapReading.ofText {V : Type} (type : String) (read : Surroundings → Node → Except Error V)
    (before : OrderedMap V) (text : String) : MapReading V :=
  match Document.parse text with
  | .error e => ⟨before, some e⟩
  | .ok none => ⟨before, none⟩
  | .ok (some d) =>
    let s := d.surroundings false
    if d.root.isNull then
      match d.root with
      | .scalar _ tag text =>
        match resolve tag text with
        | .ok _ => ⟨before, none⟩
        | .error e => ⟨before, some e⟩
      | .mapping _ _ entries =>
        match Node.repeatedKeys (entries.map (·.1)) with
        | [] => ⟨before, none⟩
        | lines => ⟨before, some (.yaml (.mismatches lines))⟩
      | n => ⟨before, some (.yaml (.mismatches [Fit.misfit n s!"ordered.Map[{type}]"]))⟩
    else .ofNode read before s d.root

end ApiCompiler.Yaml
