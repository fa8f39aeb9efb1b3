import ApiCompiler.Target.Go.Types

/-!
# Dependencies between modules

Which modules refer to types of which others. Go packages cannot import each other in a
circle, so a circle of references is an error.
-/

namespace ApiCompiler.Go

open Text

/-- The type references that a module declares. -/
def typeReferences (m : Module) : List String :=
  let fields := fun (fs : Option (OrderedMap ApiCompiler.Field)) =>
    (OrderedMap.entriesOf fs).map (·.2.type)
  (m.typeList.flatMap fun (_, t) =>
    t.extends_.toList ++ fields t.fields ++ (OrderedMap.entriesOf t.union).map (·.2)) ++
  (m.errorList.flatMap fun (_, e) => fields e.fields) ++
  (m.endpointList.flatMap fun (_, e) =>
    e.argumentList.map (·.2.type) ++ (if e.result == "" then [] else [e.result]))

/-- The module of another name that declares a custom type. -/
def foreignModule? (p : Project) (current name : String) : Option String :=
  if (typeTemplates.get? name).isSome then none
  else
    match p.findType name with
    | some loc => if loc.moduleName == current then none else some loc.moduleName
    | none => none

/-- The other modules whose types a reference names. Malformed references name none. -/
def modulesOf (p : Project) (current reference : String) : List String :=
  match Datatype.parse reference with
  | .ok dt => dt.nodes.filterMap fun d => foreignModule? p current d.name
  | .error _ => []

/-- The other modules whose types a module refers to, in order and each once. -/
def dependencies (p : Project) (name : String) : List String :=
  match p.module? name with
  | some m => sort ((typeReferences m).flatMap (modulesOf p name)).eraseDups
  | none => []

/-- Follows dependencies from a module. `path` leads to it and `done` holds the modules that lead
into no circle. The failure is a circle, closed by its first module. -/
def follow (deps : String → List String) :
    Nat → List String → List String → String → Except (List String) (List String)
  | 0, _, done, _ => .ok done
  | fuel + 1, path, done, name => do
    let path := path ++ [name]
    let done ← (deps name).foldlM (fun done dep =>
      if path.contains dep then .error (path.dropWhile (· != dep) ++ [dep])
      else if done.contains dep then .ok done
      else follow deps fuel path done dep) done
    return name :: done

/-- The first circle of dependencies, from each of several modules in turn. -/
def findCycle (deps : String → List String) (names : List String) : Option (List String) :=
  let found := names.foldlM (fun done name =>
    if done.contains name then .ok done else follow deps (names.length + 1) [] done name) []
  match found with
  | .ok _ => none
  | .error cycle => some cycle

/-- No modules of a project depend on each other in a circle. -/
def checkImportCycles (p : Project) : Except Error Unit :=
  match findCycle (dependencies p) p.moduleNames with
  | none => .ok ()
  | some cycle => .error (.config (.importCycle cycle))

end ApiCompiler.Go
