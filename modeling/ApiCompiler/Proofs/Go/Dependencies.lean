import ApiCompiler.Proofs.Go.Cycle
import ApiCompiler.Proofs.Go.Footprint
import ApiCompiler.Proofs.Text

/-!
# Dependencies are the imports

`dependencies` collects the owners of the custom types that a module names. Rendering
the module converts exactly these types, so a module that renders imports from its
dependencies and from no others, and the search for circles misses no import.
-/

namespace ApiCompiler

/-! ## Paths are never empty -/

namespace Path

theorem ne_empty_of_mem_step {rooted : Bool} {parts : List String} {part : String}
    (each : ∀ q ∈ parts, q ≠ "") : ∀ q ∈ step rooted parts part, q ≠ "" := by
  unfold step
  split
  · exact each
  · rename_i skipped
    split
    · cases parts with
      | nil => cases rooted <;> simp
      | cons first rest =>
          rw [List.forall_mem_cons] at each
          dsimp only
          split
          · simpa using each
          · exact each.2
    · refine List.forall_mem_cons.mpr ⟨?_, each⟩
      rintro rfl
      exact skipped rfl

theorem ne_empty_of_mem_foldl {rooted : Bool} (pieces : List String) {parts : List String}
    (each : ∀ q ∈ parts, q ≠ "") : ∀ q ∈ pieces.foldl (step rooted) parts, q ≠ "" := by
  induction pieces generalizing parts with
  | nil => exact each
  | cons piece pieces ih => exact ih (ne_empty_of_mem_step each)

theorem joinWith_ne_empty {sep : String} {parts : List String} (nonempty : parts ≠ [])
    (each : ∀ q ∈ parts, q ≠ "") : Text.joinWith sep parts ≠ "" := by
  rw [Text.joinWith]
  cases parts with
  | nil => exact absurd rfl nonempty
  | cons first rest =>
      have named := each first List.mem_cons_self
      cases rest with
      | nil =>
          rw [String.intercalate_singleton]
          exact named
      | cons second rest =>
          rw [String.intercalate_cons_cons]
          simp [String.append_eq_empty_iff, named]

theorem clean_ne_empty (path : String) : clean path ≠ "" := by
  unfold clean
  dsimp only
  split
  · simp [String.append_eq_empty_iff]
  · split
    · decide
    · rename_i some_
      refine joinWith_ne_empty (by simpa using some_) fun q mem => ?_
      exact ne_empty_of_mem_foldl _ (List.forall_mem_nil _) q (List.mem_reverse.mp mem)

end Path

namespace Go

open Fallible Relation Text

theorem packageName_ne_empty (module : String) : packageName module ≠ "" := by
  unfold packageName
  dsimp only
  split
  · simp [String.append_eq_empty_iff]
  · rename_i plain
    intro empty
    apply plain
    have none : ((lowerCase module).toList.filter fun c => isLetter c || isDigit c) = [] := by
      simpa using congrArg String.toList empty
    simp [none]

theorem importPath_ne_empty (base module : String) : importPath base module ≠ "" := by
  have kept : [base, packageName module].filter (· != "") ≠ [] := by
    simp [List.filter_eq_nil_iff, packageName_ne_empty]
  rw [importPath, Path.join, if_neg (by simpa using kept)]
  exact Path.clean_ne_empty _

variable {p : Project} {settings : Settings} {name other : String}

/-! ## Owners -/

/-- A module names a custom type that another module, or the same, declares. -/
def Mentions (p : Project) (m : Module) (owner : String) : Prop :=
  ∃ r ∈ typeReferences m, ∃ d, Datatype.parse r = .ok d ∧ ∃ node ∈ d.nodes,
    ∃ loc, p.locate node = some loc ∧ loc.moduleName = owner

theorem foreignModule?_eq_some_iff {current : String} {node : Datatype} :
    foreignModule? p current node.name = some other ↔
      other ≠ current ∧ ∃ loc, p.locate node = some loc ∧ loc.moduleName = other := by
  have table := standard_typeTemplates.map_get? node.name
  rw [foreignModule?, Project.locate, ← table]
  cases typeTemplates.get? node.name with
  | some template => simp
  | none =>
      cases p.findType node.name with
      | none => simp
      | some loc =>
          by_cases own : loc.moduleName = current
          · simp only [own, Option.isSome_none, Bool.false_eq_true, if_false, beq_self_eq_true,
              if_true, Option.map_none, Option.some.injEq, exists_eq_left', reduceCtorEq, false_iff]
            rintro ⟨foreign, rfl⟩
            exact foreign rfl
          · simp only [own, Option.isSome_none, Bool.false_eq_true, if_false, beq_iff_eq,
              Option.map_none, Option.some.injEq, exists_eq_left']
            constructor
            · rintro rfl
              exact ⟨own, rfl⟩
            · exact And.right

theorem mem_modulesOf_iff {current reference : String} :
    other ∈ modulesOf p current reference ↔
      other ≠ current ∧ ∃ d, Datatype.parse reference = .ok d ∧ ∃ node ∈ d.nodes,
        ∃ loc, p.locate node = some loc ∧ loc.moduleName = other := by
  rw [modulesOf]
  cases Datatype.parse reference with
  | error e => simp
  | ok d =>
      simp only [List.mem_filterMap, foreignModule?_eq_some_iff, Except.ok.injEq, exists_eq_left']
      constructor
      · rintro ⟨node, mem, foreign, located⟩
        exact ⟨foreign, node, mem, located⟩
      · rintro ⟨foreign, node, mem, located⟩
        exact ⟨node, mem, foreign, located⟩

/-- The dependencies of a module are the other modules whose types it names. -/
theorem mem_dependencies_iff {m : Module} (found : p.module? name = some m) :
    other ∈ dependencies p name ↔ other ≠ name ∧ Mentions p m other := by
  rw [dependencies, found]
  dsimp only
  rw [(sort_perm _).mem_iff, List.mem_eraseDups, List.mem_flatMap]
  simp only [mem_modulesOf_iff, Mentions]
  constructor
  · rintro ⟨r, mem, foreign, named⟩
    exact ⟨foreign, r, mem, named⟩
  · rintro ⟨foreign, r, mem, named⟩
    exact ⟨r, mem, foreign, named⟩

theorem dependencies_eq_nil (unknown : p.module? name = none) : dependencies p name = [] := by
  rw [dependencies, unknown]

theorem dependencies_subset (mem : other ∈ dependencies p name) : other ∈ p.moduleNames := by
  cases found : p.module? name with
  | none =>
      rw [dependencies_eq_nil found] at mem
      exact nomatch mem
  | some m =>
      obtain ⟨-, r, -, d, -, node, -, loc, located, rfl⟩ := (mem_dependencies_iff found).mp mem
      exact Project.moduleName_mem_of_findType (Project.findType_of_locate located)

theorem mem_moduleNames_of_dependsOn (edge : DependsOn (dependencies p) name other) :
    name ∈ p.moduleNames := by
  by_contra unknown
  rw [DependsOn, dependencies_eq_nil (Project.module?_eq_none_iff.mpr unknown)] at edge
  exact List.not_mem_nil edge

theorem not_dependsOn_self : ¬DependsOn (dependencies p) name name := by
  intro edge
  obtain ⟨m, found⟩ := Project.mem_moduleNames_iff.mp (mem_moduleNames_of_dependsOn edge)
  exact ((mem_dependencies_iff found).mp edge).1 rfl

/-! ## Circles of a project -/

theorem checkImportCycles_eq_error_iff {e : Error} :
    checkImportCycles p = .error e ↔
      ∃ cycle, findCycle (dependencies p) p.moduleNames = some cycle ∧
        e = .config (.importCycle cycle) := by
  rw [checkImportCycles]
  cases findCycle (dependencies p) p.moduleNames with
  | none => simp
  | some cycle => simp [eq_comm]

theorem checkImportCycles_eq_ok_iff :
    checkImportCycles p = .ok () ↔ findCycle (dependencies p) p.moduleNames = none := by
  rw [checkImportCycles]
  cases findCycle (dependencies p) p.moduleNames with
  | none => simp
  | some cycle => simp

/-- Without a reported circle no module depends on itself, not even through others. -/
theorem not_transGen_of_checkImportCycles (quiet : checkImportCycles p = .ok ()) (name : String) :
    ¬TransGen (DependsOn (dependencies p)) name name := by
  intro walk
  have mem : name ∈ p.moduleNames := by
    obtain ⟨before, -, last⟩ := TransGen.tail'_iff.mp walk
    exact dependencies_subset last
  exact not_transGen_of_findCycle (fun _ _ dep edge => dependencies_subset edge)
    (checkImportCycles_eq_ok_iff.mp quiet) mem walk

theorem exists_checkImportCycles_eq_error_iff :
    (∃ e, checkImportCycles p = .error e) ↔
      ∃ name, TransGen (DependsOn (dependencies p)) name name := by
  constructor
  · rintro ⟨e, failed⟩
    obtain ⟨cycle, found, -⟩ := checkImportCycles_eq_error_iff.mp failed
    exact (isCycle_of_findCycle found).exists_transGen
  · rintro ⟨name, walk⟩
    cases result : checkImportCycles p with
    | error e => exact ⟨e, rfl⟩
    | ok _ => exact absurd walk (not_transGen_of_checkImportCycles result name)

/-! ## Renderings -/

/-- A custom type is converted while a module is rendered. A file imports nothing from
itself, so the types are collected with imports that have no source of their own. -/
def ConvertsType (p : Project) (settings : Settings) (name type : String) : Prop :=
  ∃ m declarations im, p.getModule name = .ok m ∧
    (moduleDeclarations ⟨p, name, m, settings.importPath⟩).run (.new "") =
      .ok (declarations, im) ∧
    type ∈ im.symbols.map (·.2)

/-- Rendering a module converts a type that a module declares. -/
def RefersTo (p : Project) (settings : Settings) (name owner : String) : Prop :=
  ∃ type loc, ConvertsType p settings name type ∧ p.findType type = some loc ∧
    loc.moduleName = owner

/-- The symbols that a rendering without a source of its own collects. -/
theorem mem_symbols_iff {s : Scope} {declarations : List Declaration} {im : Imports}
    (result : (moduleDeclarations s).run (.new "") = .ok (declarations, im)) {type : String} :
    type ∈ im.symbols.map (·.2) ↔
      ∃ r ∈ typeReferences s.module, ∃ d, Datatype.parse r = .ok d ∧ ∃ node ∈ d.nodes,
        ∃ loc, s.project.locate node = some loc ∧ loc.typeName = type := by
  have recorded := (records_moduleDeclarations s (.new "") declarations im result).holds_iff
  have kept (module : String) : (Imports.new "").isElided (s.source module) = false := by
    simp [Imports.isElided, Imports.new, Scope.source, importPath_ne_empty]
  let c : Converter String := ⟨s.project, s.name, typeBackend s.name, s.source⟩
  have locate (node : Datatype) : c.locate node = s.project.locate node :=
    Converter.locate_eq standard_typeTemplates node
  rw [List.mem_map]
  constructor
  · rintro ⟨⟨source, _⟩, mem, rfl⟩
    rcases (recorded (.symbol source _) trivial).mp mem with before | ⟨-, r, inside, named⟩
    · exact absurd before List.not_mem_nil
    · obtain ⟨d, read, node, below, loc, located, same⟩ := named
      cases same
      exact ⟨r, inside, d, read, node, below, loc, (locate node).symm.trans located, rfl⟩
  · rintro ⟨r, inside, d, read, node, below, loc, located, rfl⟩
    refine ⟨(s.source loc.moduleName, loc.typeName),
      (recorded (loc.symbol s.source) trivial).mpr (Or.inr ⟨kept _, ?_⟩), rfl⟩
    exact ⟨r, inside, d, read, node, below, loc, (locate node).trans located, rfl⟩

theorem exists_run_of_renderModule {m : Module} (found : p.module? name = some m)
    (rendered : Succeeds (renderModule p name settings)) :
    ∃ declarations im, (moduleDeclarations ⟨p, name, m, settings.importPath⟩).run (.new "") =
      .ok (declarations, im) := by
  obtain ⟨text, result⟩ := rendered
  obtain ⟨file, source, -⟩ := bind_eq_ok_iff.mp result
  obtain ⟨m', known, rest⟩ := bind_eq_ok_iff.mp source
  cases found.symm.trans (Project.getModule_eq_ok_iff.mp known)
  obtain ⟨⟨declarations, im⟩, run, -⟩ := bind_eq_ok_iff.mp rest
  -- whether a rendering succeeds does not depend on the imports it starts with
  have reads := reads_moduleDeclarations ⟨p, name, m, settings.importPath⟩
  obtain ⟨⟨declarations', im'⟩, again⟩ :=
    ((reads (.new "")).succeeds_iff p).mpr (((reads _).succeeds_iff p).mp ⟨_, run⟩)
  exact ⟨declarations', im', again⟩

/-- A module that renders converts types of exactly the modules that it names. -/
theorem refersTo_iff {m : Module} (found : p.module? name = some m)
    (rendered : Succeeds (renderModule p name settings)) :
    RefersTo p settings name other ↔ Mentions p m other := by
  constructor
  · rintro ⟨type, loc, ⟨m', declarations, im, known, result, mem⟩, declared, rfl⟩
    cases found.symm.trans (Project.getModule_eq_ok_iff.mp known)
    obtain ⟨r, inside, d, read, node, below, loc', located, rfl⟩ := (mem_symbols_iff result).mp mem
    have declared' := Project.findType_of_locate located
    rw [Project.typeName_of_findType declared'] at declared
    cases declared'.symm.trans declared
    exact ⟨r, inside, d, read, node, below, loc, located, rfl⟩
  · rintro ⟨r, inside, d, read, node, below, loc, located, rfl⟩
    obtain ⟨declarations, im, result⟩ := exists_run_of_renderModule found rendered
    have declared := Project.findType_of_locate located
    have known := Project.getModule_eq_ok_iff.mpr found
    refine ⟨node.name, loc, ⟨m, declarations, im, known, result, ?_⟩, declared, rfl⟩
    refine (mem_symbols_iff result).mpr ⟨r, inside, d, read, node, below, loc, located, ?_⟩
    exact Project.typeName_of_findType declared

theorem dependencies_exact_of_renderModule (rendered : Succeeds (renderModule p name settings)) :
    other ∈ dependencies p name ↔ other ≠ name ∧ RefersTo p settings name other := by
  obtain ⟨text, result⟩ := rendered
  obtain ⟨file, source, -⟩ := bind_eq_ok_iff.mp result
  obtain ⟨m, known, -⟩ := bind_eq_ok_iff.mp source
  have found := Project.getModule_eq_ok_iff.mp known
  rw [mem_dependencies_iff found, refersTo_iff found ⟨text, result⟩]

/-- The search for circles is exact. It fails exactly if some module depends on itself,
directly or through others, and it then names a circle: the first module stands again at
the end, no other one is repeated, and each depends on the next. A module that renders
depends on exactly the other modules whose types its rendering converts; so if the search
finds nothing and all modules render, they do not refer to each other in a circle. -/
theorem checkImportCycles_exact (p : Project) :
    ((∃ e, checkImportCycles p = .error e) ↔
        ∃ name, TransGen (DependsOn (dependencies p)) name name) ∧
      (∀ e, checkImportCycles p = .error e →
        ∃ cycle, e = .config (.importCycle cycle) ∧ IsCycle (dependencies p) cycle ∧
          e.reason = "go: import cycle between modules " ++ joinWith " -> " cycle) ∧
      (∀ settings name, Succeeds (renderModule p name settings) → ∀ other,
        other ∈ dependencies p name ↔ other ≠ name ∧ RefersTo p settings name other) ∧
      ∀ settings, checkImportCycles p = .ok () →
        (∀ name ∈ p.moduleNames, Succeeds (renderModule p name settings)) →
        ∀ name, ¬TransGen (fun a b => b ≠ a ∧ RefersTo p settings a b) name name := by
  refine ⟨exists_checkImportCycles_eq_error_iff, fun e failed => ?_,
    fun settings name rendered other => dependencies_exact_of_renderModule rendered,
    fun settings quiet rendered name walk => ?_⟩
  · obtain ⟨cycle, found, rfl⟩ := checkImportCycles_eq_error_iff.mp failed
    exact ⟨cycle, rfl, isCycle_of_findCycle found, rfl⟩
  · refine not_transGen_of_checkImportCycles quiet name (TransGen.mono ?_ name name walk)
    intro a b edge
    obtain ⟨type, loc, ⟨m, -, -, known, -⟩, -⟩ := edge.2
    have mem : a ∈ p.moduleNames :=
      Project.mem_moduleNames_iff.mpr ⟨m, Project.getModule_eq_ok_iff.mp known⟩
    exact (dependencies_exact_of_renderModule (rendered a mem)).mpr edge

end Go

end ApiCompiler
