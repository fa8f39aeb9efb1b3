import ApiCompiler.Proofs.Describe.Footprint
import ApiCompiler.Proofs.Go.Dependencies
import ApiCompiler.Proofs.Python.Footprint
import ApiCompiler.Proofs.TypeScript.Footprint

/-!
# Adding a module

A new module comes last, and types are looked for in order, so nothing that was found
before is hidden. What a target reads of a project is found as before, and what it
rendered before it renders again.
-/

namespace ApiCompiler

open Fallible Relation

variable {p q : Project} {α β ι : Type} {condition : Prop} {references : List String}

/-! ## Extensions -/

namespace Project

/-- A project finds whatever another one finds. -/
structure Extends (p q : Project) : Prop where
  module? {name : String} {m : Module} : p.module? name = some m → q.module? name = some m
  findType {name : String} {loc : TypeLocator} :
    p.findType name = some loc → q.findType name = some loc

/-- The module as it is added under a name. -/
def named (name : String) (m : Module) : Module :=
  if m.name == "" then { m with name := Casing.pascal name } else m

/-- The project that is held after an addition. One that is refused changes nothing. -/
def afterAdd (p : Project) (name : String) (m : Module) : Project :=
  (p.add name m).toOption.getD p

theorem add_eq_ok {name : String} (m : Module) (new : name ∉ p.moduleNames) :
    p.add name m = .ok ⟨p.modules.insert name (named name m)⟩ := by
  have absent : p.modules.contains name = false := by
    rw [OrderedMap.contains, OrderedMap.get?_eq_none_iff.mpr new]
    rfl
  rw [add, absent]
  rfl

theorem add_eq_error {name : String} (m : Module) (present : name ∈ p.moduleNames) :
    p.add name m = .error (.duplicateModule name) := by
  obtain ⟨known, found⟩ := mem_moduleNames_iff.mp present
  have contained : p.modules.contains name = true := by
    rw [OrderedMap.contains, Option.isSome_iff_exists]
    exact ⟨known, found⟩
  rw [add, contained]
  rfl

theorem moduleList_of_add {name : String} {m : Module} (added : p.add name m = .ok q) :
    name ∉ p.moduleNames ∧ q.moduleList = p.moduleList ++ [(name, named name m)] := by
  by_cases present : name ∈ p.moduleNames
  · rw [add_eq_error m present] at added
    exact nomatch added
  · rw [add_eq_ok m present] at added
    cases added
    exact ⟨present, OrderedMap.put_eq_append present⟩

/-- A new module hides nothing. -/
theorem extends_of_add {name : String} {m : Module} (added : p.add name m = .ok q) :
    p.Extends q := by
  obtain ⟨new, order⟩ := moduleList_of_add added
  refine ⟨fun {other known} found => ?_, fun {type loc} found => ?_⟩
  · rw [module?_eq_some_iff] at found ⊢
    rw [order]
    exact List.mem_append_left _ found
  · obtain ⟨entry, first, located⟩ := Option.map_eq_some_iff.mp found
    rw [Project.findType, order, List.find?_append, first]
    exact congrArg some located

theorem Extends.agreesOn (ext : p.Extends q) {reference : String}
    (converts : p.Converts reference) : p.AgreesOn q reference := by
  obtain ⟨d, read, admitted⟩ := converts
  intro d' read' node mem custom
  cases read.symm.trans read'
  have admits := admitted node mem
  rw [Admits, custom] at admits
  obtain ⟨loc, found⟩ := Option.isSome_iff_exists.mp admits.2
  rw [found, ext.findType found]

end Project

/-- A computation that succeeds has the same result in an extension. -/
theorem Reads.refines_of_extends {run : Project → Except Error α}
    (reads : Reads run condition references) (ext : p.Extends q) : Refines (run p) (run q) := by
  intro a result
  have converts := ((reads.succeeds_iff p).mp ⟨a, result⟩).2
  exact reads.refines (fun r mem => ext.agreesOn (converts r mem)) a result

theorem Project.Extends.refines_getModule (ext : p.Extends q) (name : String) :
    Refines (p.getModule name) (q.getModule name) := fun _ found =>
  getModule_eq_ok_iff.mpr (ext.module? (getModule_eq_ok_iff.mp found))

/-! ## Renderings -/

theorem TypeScript.refines_renderModule (ext : p.Extends q) (name : String)
    (settings : TypeScript.Settings) :
    Refines (renderModule p name settings) (renderModule q name settings) := by
  refine (ext.refines_getModule name).bind fun m _ => .bind ?_ fun _ _ => .refl _
  exact (reads_pieces _ ⟨p, name, m⟩ _).refines_of_extends ext

theorem Go.refines_sourceFile (ext : p.Extends q) (name : String) (settings : Go.Settings) :
    Refines (sourceFile p name settings) (sourceFile q name settings) := by
  refine (ext.refines_getModule name).bind fun m _ => .bind ?_ fun _ _ => .refl _
  exact (reads_moduleDeclarations ⟨p, name, m, settings.importPath⟩ _).refines_of_extends ext

theorem Go.refines_renderModule (ext : p.Extends q) (name : String) (settings : Go.Settings) :
    Refines (renderModule p name settings) (renderModule q name settings) :=
  (refines_sourceFile ext name settings).bind fun _ _ => .refl _

namespace Python

theorem new_eq_ok (p : Project) (current : String) (source : String → String) :
    Converter.new p current backend source = .ok (converterOn current source p) := by
  have complete : backend.templates.check = .ok () := by decide
  rw [Converter.new, complete]
  rfl

theorem refines_namedDeclarations (ext : p.Extends q) (current : String)
    (source : String → String) (name : String) (im : Imports) :
    Refines (namedDeclarations (converterOn current source p) name im)
      (namedDeclarations (converterOn current source q) name im) := by
  cases found : p.module? name with
  | none =>
      rw [namedDeclarations_of_unknown found]
      exact fun _ result => nomatch result
  | some m =>
      rw [namedDeclarations_of_found found, namedDeclarations_of_found (ext.module? found)]
      exact (((reads_moduleDeclarations current source m).within _) im).refines_of_extends ext

/-- The documentation of a file is that of a known module, if it has any. -/
theorem fileDocs_eq (ext : p.Extends q) {modules : List String}
    (known : ∀ name ∈ modules, ∃ m, p.module? name = some m) :
    fileDocs p modules = fileDocs q modules := by
  match modules with
  | [] => rfl
  | [name] =>
      obtain ⟨m, found⟩ := known name List.mem_cons_self
      rw [fileDocs, fileDocs, found, ext.module? found]
  | _ :: _ :: _ => rfl

theorem refines_renderFile (ext : p.Extends q) (modules : List String) (indent : Nat)
    (source : String → String) :
    Refines (renderFile p modules indent source) (renderFile q modules indent source) := by
  rw [renderFile, renderFile, new_eq_ok, new_eq_ok]
  refine (Emit.refines_mapM (refines_namedDeclarations ext _ source) modules _).bind
    fun result run => ?_
  have known : ∀ name ∈ modules, ∃ m, p.module? name = some m := fun name mem =>
    have ⟨m, found, _⟩ := succeeds_fileDeclarations_iff.mp ⟨result, run⟩ name mem
    ⟨m, found⟩
  rw [fileDocs_eq ext known]
  exact .refl _

end Python

/-! ## Descriptions -/

theorem ServiceDraft.refines_ofModule (ext : p.Extends q) (module : String) :
    Refines (ofModule p module) (ofModule q module) := by
  refine (ext.refines_getModule module).bind fun m _ => .bind ?_ fun _ _ => .refl _
  exact (reads_describeEndpoints module m).refines_of_extends ext

theorem ServiceDescription.refines_ofModule (ext : p.Extends q) (module : String) :
    Refines (ofModule p module) (ofModule q module) :=
  (ServiceDraft.refines_ofModule ext module).bind fun _ _ => .refl _

namespace ModuleDescription

theorem refines_describeService (ext : p.Extends q) (module : String) (m : Module) :
    Refines (describeService p module m) (describeService q module m) := by
  unfold describeService
  split
  · exact .refl _
  · exact (ServiceDescription.refines_ofModule ext module).map some

theorem refines_ofModule (ext : p.Extends q) (module : String) :
    Refines (ofModule p module) (ofModule q module) := by
  refine (ext.refines_getModule module).bind fun m _ => .bind ?types fun _ _ =>
    .bind ?errors fun _ _ => .bind (refines_describeService ext module m) fun _ _ => .refl _
  case types => exact (reads_describeTypes module m).refines_of_extends ext
  case errors => exact (reads_describeErrors module m).refines_of_extends ext

end ModuleDescription

/-! ## Circles -/

namespace Go

theorem modulesOf_congr {current reference : String} (agrees : p.AgreesOn q reference) :
    modulesOf p current reference = modulesOf q current reference := by
  unfold modulesOf
  cases read : Datatype.parse reference with
  | error e => rfl
  | ok d =>
      refine List.filterMap_congr fun node mem => ?_
      have table := standard_typeTemplates.map_get? node.name
      unfold foreignModule?
      cases found : typeTemplates.get? node.name with
      | some template => rfl
      | none =>
          rw [found, Option.map_none] at table
          rw [agrees d read node mem table.symm]

/-- A module whose references convert depends on the same modules in an extension. -/
theorem dependencies_congr (ext : p.Extends q) {name : String} {m : Module}
    (found : p.module? name = some m) (converts : ∀ r ∈ typeReferences m, p.Converts r) :
    dependencies q name = dependencies p name := by
  rw [dependencies, dependencies, found, ext.module? found]
  dsimp only
  rw [List.flatMap_congr fun r mem => modulesOf_congr (ext.agreesOn (converts r mem))]

section

variable {name : String} {m : Module} (added : p.add name m = .ok q)
  (converts : ∀ e ∈ p.moduleList, ∀ r ∈ typeReferences e.2, p.Converts r)

include added converts

theorem dependencies_of_add {a : String} (mem : a ∈ p.moduleNames) :
    dependencies q a = dependencies p a := by
  obtain ⟨known, found⟩ := Project.mem_moduleNames_iff.mp mem
  have inside := Project.module?_eq_some_iff.mp found
  exact dependencies_congr (Project.extends_of_add added) found (converts _ inside)

/-- No module depends on one that was just added: the references of the others were found
before, and a module does not depend on itself. -/
theorem mem_moduleNames_of_dependsOn_add {a b : String}
    (edge : DependsOn (dependencies q) a b) : b ∈ p.moduleNames := by
  have names : q.moduleNames = p.moduleNames ++ [name] := by
    have keys := congrArg (List.map Prod.fst) (Project.moduleList_of_add added).2
    rw [List.map_append] at keys
    exact keys
  have target : b ∈ p.moduleNames ++ [name] := names ▸ dependencies_subset edge
  rcases List.mem_append.mp target with mem | mem
  · exact mem
  · by_cases inside : a ∈ p.moduleNames
    · rw [DependsOn, dependencies_of_add added converts inside] at edge
      exact dependencies_subset edge
    · have known : a ∈ q.moduleNames := mem_moduleNames_of_dependsOn edge
      rw [names, List.mem_append, or_iff_right inside, List.mem_singleton] at known
      rw [List.mem_singleton.mp mem, ← known] at edge
      exact absurd edge not_dependsOn_self

/-- A new module closes no circle: every circle would run through modules that were there
before, and these depend on what they did. -/
theorem checkImportCycles_of_add (quiet : checkImportCycles p = .ok ()) :
    checkImportCycles q = .ok () := by
  cases result : checkImportCycles q with
  | ok _ => rfl
  | error e =>
      obtain ⟨a, walk⟩ := exists_checkImportCycles_eq_error_iff.mp ⟨e, result⟩
      have old : ∀ a b, DependsOn (dependencies q) a b → b ∈ p.moduleNames :=
        fun _ _ => mem_moduleNames_of_dependsOn_add added converts
      obtain ⟨middle, -, into⟩ := TransGen.tail'_iff.mp walk
      have before := transGen_of_agree old
        (fun _ mem => dependencies_of_add added converts mem) (old middle a into) walk
      exact absurd before (not_transGen_of_checkImportCycles quiet a)

end

end Go

/-! ## Adding is conservative -/

/-- A module can be added under every new name, and then stands behind all others. What
the targets rendered or described before they render or describe again with the same
result, and if all references convert and there is no circle of imports, there is none
afterwards. A name that is taken is refused, and the project stays as it was. -/
theorem Project.add_conservative (p : Project) (name : String) (m : Module) :
    (name ∉ p.moduleNames → ∃ q, p.add name m = .ok q ∧
      q.moduleList = p.moduleList ++ [(name, named name m)] ∧
      (∀ k settings, Refines (TypeScript.renderModule p k settings)
        (TypeScript.renderModule q k settings)) ∧
      (∀ k settings, Refines (Go.renderModule p k settings) (Go.renderModule q k settings)) ∧
      (∀ k, Refines (ModuleDescription.ofModule p k) (ModuleDescription.ofModule q k)) ∧
      (∀ k indent source, Refines (Python.renderFile p [k] indent source)
        (Python.renderFile q [k] indent source)) ∧
      ((∀ e ∈ p.moduleList, ∀ r ∈ Go.typeReferences e.2,
          Succeeds ((TypeRef.converter p e.1).convert r).result) →
        Go.checkImportCycles p = .ok () → Go.checkImportCycles q = .ok ())) ∧
    (name ∈ p.moduleNames → p.add name m = .error (.duplicateModule name) ∧
      (p.afterAdd name m).moduleList = p.moduleList ∧
      ∀ type, (p.afterAdd name m).findType type = p.findType type) := by
  refine ⟨fun new => ?_, fun present => ?_⟩
  · have added := add_eq_ok m new
    have ext := extends_of_add added
    refine ⟨_, added, (moduleList_of_add added).2, TypeScript.refines_renderModule ext,
      Go.refines_renderModule ext, ModuleDescription.refines_ofModule ext,
      fun k => Python.refines_renderFile ext [k], fun converts => ?_⟩
    refine Go.checkImportCycles_of_add added fun e mem r inside => ?_
    exact (Converter.succeeds_convert_iff TypeRef.standard_templates r).mp (converts e mem r inside)
  · have refused := add_eq_error m present
    rw [afterAdd, refused]
    exact ⟨rfl, rfl, fun _ => rfl⟩

end ApiCompiler
