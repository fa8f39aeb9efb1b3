import ApiCompiler.Casing
import ApiCompiler.Module

/-!
# Projects

The modules that are compiled together, in the order in which they were added. References to
types resolve against all of them.
-/

namespace ApiCompiler

/-- The modules that are compiled together. -/
structure Project where
  modules : OrderedMap Module
deriving Repr

/-- A custom type and the module that declares it. -/
structure TypeLocator where
  moduleName : String
  module : Module
  typeName : String

namespace Project

/-- The project without modules. -/
def empty : Project := ⟨.empty⟩

instance : Inhabited Project := ⟨empty⟩

/-- Adds a module under a new name. A module without a name of its own gets the name in
`PascalCase`. A module is a value here, and only the added one is named; where modules are shared,
the name is written to the module itself, so that one that is added twice keeps its first name. -/
def add (p : Project) (name : String) (m : Module) : Except Error Project :=
  if p.modules.contains name then .error (.duplicateModule name)
  else
    let m := if m.name == "" then { m with name := Casing.pascal name } else m
    .ok ⟨p.modules.insert name m⟩

/-- The module with a name. -/
def module? (p : Project) (name : String) : Option Module := p.modules.get? name

/-- The names of the modules in order. -/
def moduleNames (p : Project) : List String := p.modules.keys

/-- The modules in order. -/
def moduleList (p : Project) : List (String × Module) := p.modules.entries

/-- The number of modules. -/
def size (p : Project) : Nat := p.modules.size

/-- The first module that declares a type with a name. -/
def findType (p : Project) (name : String) : Option TypeLocator :=
  (p.moduleList.find? fun (_, m) => m.hasType name).map fun (key, m) => ⟨key, m, name⟩

/-- Every module is valid; the first fault is reported with the name of its module. -/
def validate (p : Project) : Except Error Unit :=
  p.moduleList.forM fun (name, m) => labelled ("module " ++ name) m.validate

end Project

/-- The definition of a located type; the empty one if it has none. -/
def TypeLocator.decl (l : TypeLocator) : TypeDecl := (l.module.type? l.typeName).getD .empty

end ApiCompiler
