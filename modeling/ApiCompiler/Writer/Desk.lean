import ApiCompiler.Writer

/-!
# A writer and its named sections

Several parts of a program write at the same time, each to a section of its own or to the root.
They know a section by the name under which it was made; the root has no name.
-/

namespace ApiCompiler

/-- A root writer and the places of its named sections. -/
structure Desk (Name : Type) where
  root : Writer
  places : List (Name × Writer.Path)

namespace Desk

variable {Name : Type} [DecidableEq Name]

/-- An empty root without sections. -/
def new (indent : String) : Desk Name := ⟨Writer.new indent, []⟩

/-- The place of a writer. -/
def place? (d : Desk Name) : Option Name → Option Writer.Path
  | none => some []
  | some name => (d.places.find? (·.1 = name)).map (·.2)

/-- A writer by its name. -/
def writer? (d : Desk Name) (on : Option Name) : Option Writer :=
  (d.place? on).bind d.root.at?

/-- Writes to one of the writers. -/
def change (d : Desk Name) (on : Option Name) (change : Writer → Writer) : Desk Name :=
  match d.place? on with
  | some place => { d with root := d.root.modifyAt change place }
  | none => d

/-- Makes a section at the end of one of the writers. -/
def addSection (d : Desk Name) (on : Option Name) (name : Name) : Desk Name :=
  match d.place? on, d.writer? on with
  | some place, some w =>
    ⟨d.root.modifyAt Writer.addSection place, (name, place ++ [w.nextSection]) :: d.places⟩
  | _, _ => d

end Desk

end ApiCompiler
