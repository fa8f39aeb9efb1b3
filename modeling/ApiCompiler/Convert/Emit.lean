import ApiCompiler.Convert.Converter

/-!
# Emitting code

Code is emitted together with what it imports: a computation that collects imports and may
fail.
-/

namespace ApiCompiler

/-- A computation that collects imports. -/
abbrev Emit (α : Type) := StateT Imports (Except Error) α

namespace Emit

variable {α : Type}

/-- Records a whole source. -/
def needModule (source : String) : Emit Unit := modify (·.addModule source)

/-- Records a symbol. -/
def need (source symbol : String) : Emit Unit := modify (·.add source symbol)

/-- Labels the failure of a computation. -/
def within (label : String) (x : Emit α) : Emit α := fun im => labelled label (x im)

/-- Lifts a computation without imports. -/
def ofExcept (x : Except Error α) : Emit α := fun im => x.map fun a => (a, im)

/-- Fails. -/
def fail (e : Error) : Emit α := fun _ => .error e

/-- Converts a type reference. The custom types it meets are recorded, and `also` records what
the target needs besides. -/
def convert (c : Converter String) (also : Imports → Visit String → Imports)
    (reference : String) : Emit String := fun im =>
  let done := c.convert reference
  done.result.map fun rendered =>
    (rendered, done.visits.foldl also (c.recordImports im done.visits))

end Emit

end ApiCompiler
