import ApiCompiler.Text.Split

/-!
# Imports

What a generated file depends on: whole sources, and single symbols of sources. Nothing is
recorded twice, and nothing of the file's own source is recorded.
-/

namespace ApiCompiler

open Text

/-- The imports of one file. An empty `self` means that no source is the file's own. -/
structure Imports where
  self : String
  modules : List String
  symbols : List (String × String)
deriving Repr

/-- The symbols that are imported from one source. -/
structure ImportGroup where
  source : String
  symbols : List String
deriving DecidableEq, Repr

namespace Imports

/-- No imports, for a file with a source of its own. -/
def new (self : String) : Imports := ⟨self, [], []⟩

/-- Nothing is imported from an empty source or from the file's own. -/
def isElided (im : Imports) (source : String) : Bool :=
  source == "" || (im.self != "" && source == im.self)

/-- Adds an element to a list that does not have it. -/
def addNew {α : Type} [BEq α] (a : α) (as : List α) : List α :=
  if as.contains a then as else as ++ [a]

/-- Records a whole source. -/
def addModule (im : Imports) (source : String) : Imports :=
  if im.isElided source then im else { im with modules := addNew source im.modules }

/-- Records a symbol of a source; an empty symbol means the whole source. -/
def add (im : Imports) (source symbol : String) : Imports :=
  if symbol == "" then im.addModule source
  else if im.isElided source then im
  else { im with symbols := addNew (source, symbol) im.symbols }

/-- A symbol was recorded; an empty symbol asks for the whole source. -/
def has (im : Imports) (source symbol : String) : Bool :=
  if symbol == "" then im.modules.contains source else im.symbols.contains (source, symbol)

/-- The whole sources in order. -/
def sortedModules (im : Imports) : List String := sort im.modules

/-- The sources of symbols, each once and in order. -/
def sources (im : Imports) : List String := sort (im.symbols.map (·.1)).eraseDups

/-- The symbols of a source in order. -/
def symbolsOf (im : Imports) (source : String) : List String :=
  sort ((im.symbols.filter (·.1 == source)).map (·.2))

/-- The symbols by source, in order of source and then of symbol. -/
def groups (im : Imports) : List ImportGroup :=
  im.sources.map fun source => ⟨source, im.symbolsOf source⟩

/-- The number of recorded sources and symbols. -/
def size (im : Imports) : Nat := im.modules.length + im.symbols.length

/-- Records everything that another file imports. -/
def merge (im other : Imports) : Imports :=
  let im := other.modules.foldl addModule im
  other.symbols.foldl (fun im (source, symbol) => im.add source symbol) im

end Imports

end ApiCompiler
