import ApiCompiler.Generation
import ApiCompiler.Proofs.Fallible
import Mathlib.Data.List.Nodup

/-!
# Paths of generated files

A run that succeeds wrote every file that its targets planned, in order: the paths that it
reports for a target are those of the target's plan. Paths are made from the names of modules.
TypeScript keeps the names, so its paths are distinct; the Go target drops what a package name
cannot hold, and the Python target divides names at points and adds a file of its own. So files of
one target replace each other exactly if two modules have one package or one path, or a module is
called like the file of the package.
-/

namespace ApiCompiler

open Fallible

/-! ## Plans -/

namespace Plan

/-- The paths of the files of a plan, in the order of writing. -/
def paths (p : Plan) : List String := p.files.map (·.path)

/-- A plan of files with known paths that did not fail holds all of them. -/
theorem paths_ofList {α : Type} {make : α → Except Error OutputFile} {path : α → String}
    {as : List α} (placed : ∀ a file, make a = .ok file → file.path = path a)
    (clean : (ofList make as).fault = none) : (ofList make as).paths = as.map path := by
  induction as with
  | nil => rfl
  | cons a rest ih =>
      rw [ofList] at clean ⊢
      cases made : make a with
      | error e =>
          rw [made] at clean
          exact nomatch clean
      | ok file =>
          rw [made] at clean
          rw [List.map_cons, ← ih clean, ← placed a file made]
          rfl

theorem fault_ofList_eq_none_iff {α : Type} {make : α → Except Error OutputFile} {as : List α} :
    (ofList make as).fault = none ↔ ∀ a ∈ as, Succeeds (make a) := by
  induction as with
  | nil => exact iff_of_true rfl nofun
  | cons a rest ih =>
      rw [ofList, List.forall_mem_cons, ← ih]
      cases make a with
      | error e => simp [failed]
      | ok file => simp

theorem fault_andThen_eq_none_iff {p q : Plan} :
    (p.andThen q).fault = none ↔ p.fault = none ∧ q.fault = none := by
  rw [andThen]
  cases fault : p.fault with
  | none => simp
  | some e => simp [fault]

theorem paths_andThen {p : Plan} (clean : p.fault = none) (q : Plan) :
    (p.andThen q).paths = p.paths ++ q.paths := by
  rw [andThen, clean]
  exact List.map_append

@[simp]
theorem paths_empty : empty.paths = [] := rfl

@[simp]
theorem paths_single (path content : String) : (single path content).paths = [path] := rfl

end Plan

/-! ## Runs -/

theorem Target.name_of_ofName {name : String} {options : Options} {target : Target}
    (made : ofName name options = .ok target) : target.name = name := by
  unfold ofName at made
  split at made
  case h_5 => exact nomatch made
  all_goals
    obtain ⟨_, -, same⟩ := bind_eq_ok_iff.mp made
    exact Except.ok.inj same ▸ rfl

namespace Generation

variable {g : Generation} {project : Project} {sink : Sink}

/-- Files are written in order up to the first fault. -/
theorem paths_writeFiles {cancelled : Bool} {target : String} {files : List OutputFile}
    (clean : (writeFiles cancelled target files sink).fault = none) :
    (writeFiles cancelled target files sink).paths = files.map (·.path) := by
  induction files generalizing sink with
  | nil => rfl
  | cons file rest ih =>
      rw [writeFiles] at clean ⊢
      split at clean
      · exact nomatch clean
      · rw [List.map_cons, ← ih clean]

/-- A target that is run without a fault wrote its whole plan. -/
theorem paths_runTarget {target : Target} (clean : (g.runTarget project target sink).fault = none) :
    (target.generate project).fault = none ∧
      (g.runTarget project target sink).paths = (target.generate project).paths := by
  rw [runTarget] at clean ⊢
  rw [Option.map_eq_none_iff, Option.or_eq_none_iff] at clean
  exact ⟨clean.2, paths_writeFiles clean.1⟩

/-- The paths of a target that has written its whole plan. -/
def Wrote (project : Project) (target : Target) (paths : List String) : Prop :=
  (target.generate project).fault = none ∧ paths = (target.generate project).paths

/-- What is reported for a name comes from a target of that name, and something is reported for
every target. -/
theorem wrote_of_runTargets {targets : List Target} {done all : Generated}
    (ran : (g.runTargets project targets sink done).result = .ok all) :
    (∀ name paths, all.get? name = some paths → done.get? name = some paths ∨
        ∃ target ∈ targets, target.name = name ∧ Wrote project target paths) ∧
      (∀ name, (done.get? name).isSome → (all.get? name).isSome) ∧
      ∀ target ∈ targets, (all.get? target.name).isSome := by
  induction targets generalizing sink done with
  | nil =>
      cases ran
      exact ⟨fun _ _ => .inl, fun _ => id, fun _ => nofun⟩
  | cons target rest ih =>
      rw [runTargets] at ran
      cases clean : (g.runTarget project target sink).fault with
      | some e =>
          rw [clean] at ran
          exact nomatch ran
      | none =>
          rw [clean] at ran
          obtain ⟨generated, paths⟩ := paths_runTarget clean
          obtain ⟨origin, kept, each⟩ := ih ran
          refine ⟨fun name paths' found => ?_, fun name before => ?_, fun other mem => ?_⟩
          · rcases origin name paths' found with earlier | ⟨other, mem, named, wrote⟩
            · rw [OrderedMap.get?_insert] at earlier
              split at earlier
              · rename_i named
                cases earlier
                exact .inr ⟨target, List.mem_cons_self, named, generated, paths⟩
              · exact .inl earlier
            · exact .inr ⟨other, List.mem_cons_of_mem target mem, named, wrote⟩
          · refine kept name ?_
            rw [OrderedMap.get?_insert]
            split
            · rfl
            · exact before
          · rcases List.mem_cons.mp mem with rfl | mem
            · refine kept _ ?_
              rw [OrderedMap.get?_insert, if_pos rfl]
              rfl
            · exact each other mem

/-- A run that succeeds reports for every target the paths of its plan. -/
theorem wrote_of_run {done : Generated} (ran : (g.run project sink).result = .ok done) :
    ∀ name ∈ g.targetNames, ∃ target paths, Target.ofName name g.options = .ok target ∧
      done.get? name = some paths ∧ Wrote project target paths := by
  rw [run] at ran
  cases resolved : g.resolve with
  | error e =>
      rw [resolved] at ran
      exact nomatch ran
  | ok targets =>
      rw [resolved] at ran
      obtain ⟨_, -, made⟩ := bind_eq_ok_iff.mp resolved
      obtain ⟨results, origins⟩ := mem_of_mapM_eq_ok made
      obtain ⟨origin, -, each⟩ := wrote_of_runTargets ran
      intro name asked
      obtain ⟨target, mem, ofName⟩ := results name asked
      have named := Target.name_of_ofName ofName
      obtain ⟨paths, found⟩ := Option.isSome_iff_exists.mp (each target mem)
      rw [named] at found
      rcases origin name paths found with nothing | ⟨other, inside, same, wrote⟩
      · exact nomatch nothing
      · -- the options give only one target to a name
        obtain ⟨name', -, again⟩ := origins other inside
        cases (Target.name_of_ofName again).symm.trans same
        exact ⟨other, paths, again, found, wrote⟩

end Generation

/-! ## Go -/

namespace Go

/-- The path of the file of a package. -/
def filePath (package : String) : String := package ++ "/" ++ package ++ ".go"

theorem filePath_injective : filePath.Injective := by
  intro a b same
  have chars := congrArg String.toList same
  simp only [filePath, String.toList_append, List.append_assoc] at chars
  have length : a.toList.length = b.toList.length := by
    have lengths := congrArg List.length chars
    simp only [List.length_append] at lengths
    omega
  exact String.toList_inj.mp (List.append_inj chars length).1

theorem paths_generate {p : Project} {s : Settings} (clean : (generate p s).fault = none) :
    (generate p s).paths = p.moduleNames.map fun name => filePath (packageName name) := by
  rw [generate] at clean ⊢
  split at clean
  · exact nomatch clean
  · exact nomatch clean
  · refine Plan.paths_ofList (fun name file made => ?_) clean
    obtain ⟨content, -, same⟩ := bind_eq_ok_iff.mp made
    exact Except.ok.inj same ▸ rfl

end Go

/-! ## TypeScript -/

namespace TypeScript

theorem paths_generate {p : Project} {s : Settings} (clean : (generate p s).fault = none) :
    (generate p s).paths = p.moduleNames.map (· ++ ".ts") := by
  refine Plan.paths_ofList (fun name file made => ?_) clean
  obtain ⟨content, -, same⟩ := bind_eq_ok_iff.mp made
  exact Except.ok.inj same ▸ rfl

end TypeScript

/-! ## Python -/

namespace Python

/-- The stem of the file that makes a package. -/
def packageStem : String := "__init__"

/-- The path of a Python file inside the package. -/
def memberPath (s : Settings) (stem : String) : String :=
  s.sourceDirectory ++ modulePath s.package ++ "/" ++ stem ++ ".py"

/-- The paths of the Python files: one file, or those of a package. -/
def sourcePaths (p : Project) (s : Settings) : List String :=
  if s.module = "" then (p.moduleNames.map modulePath ++ [packageStem]).map (memberPath s)
  else [s.sourceDirectory ++ modulePath s.module ++ ".py"]

/-- The paths of the files that install the Python files. -/
def packagingPaths (s : Settings) : List String :=
  (if s.installable then ["pyproject.toml"] else []) ++
    if s.installable && s.package != "" then ["src/" ++ modulePath s.package ++ "/py.typed"] else []

/-! Defaults decide on no path. -/

@[simp]
theorem Settings.module_withDefaults (s : Settings) : s.withDefaults.module = s.module := rfl

@[simp]
theorem Settings.package_withDefaults (s : Settings) : s.withDefaults.package = s.package := rfl

@[simp]
theorem Settings.installable_withDefaults (s : Settings) :
    s.withDefaults.installable = s.installable := rfl

@[simp]
theorem Settings.sourceDirectory_withDefaults (s : Settings) :
    s.withDefaults.sourceDirectory = s.sourceDirectory := rfl

@[simp]
theorem layout_withDefaults (p : Project) (s : Settings) :
    layout p s.withDefaults = layout p s := rfl

theorem path_packageFile (s : Settings) :
    s.sourceDirectory ++ modulePath s.package ++ "/__init__.py" = memberPath s packageStem := by
  have parts : "/__init__.py" = "/" ++ packageStem ++ ".py" := by decide
  rw [memberPath, parts]
  simp only [String.append_assoc]

theorem modulePath_qualified (package name : String) :
    modulePath (package ++ "." ++ name) = modulePath package ++ "/" ++ modulePath name := by
  simp [modulePath, Text.replaceChar, ← String.toList_inj]

/-- Accepted options set one of module and package. -/
theorem Settings.package_eq_empty_iff {s : Settings} (valid : s.validate = .ok ()) :
    s.package = "" ↔ s.module ≠ "" := by
  rw [validate] at valid
  by_cases module : s.module = "" <;> by_cases package : s.package = "" <;>
    simp_all [bind, Except.bind, throw, throwThe, MonadExceptOf.throw]

theorem paths_layout (p : Project) (s : Settings) : (layout p s).map (·.path) =
    if s.module = "" then (p.moduleNames.map modulePath).map (memberPath s)
    else [s.sourceDirectory ++ modulePath s.module ++ ".py"] := by
  by_cases module : s.module = ""
  · have path (name : String) :
        s.sourceDirectory ++ modulePath (s.package ++ "." ++ name) ++ ".py" =
          memberPath s (modulePath name) := by
      rw [memberPath, modulePath_qualified]
      simp only [String.append_assoc]
    simp [layout, module, path]
  · simp [layout, module]

theorem paths_generate {p : Project} {s : Settings} (clean : (generate p s).fault = none) :
    s.validate = .ok () ∧ (generate p s).paths = sourcePaths p s ++ packagingPaths s := by
  rw [generate] at clean ⊢
  split at clean
  · exact nomatch clean
  · rename_i valid
    refine ⟨valid, ?_⟩
    dsimp only at clean ⊢
    have packaged := (Plan.fault_andThen_eq_none_iff.mp clean).1
    have sources := (Plan.fault_andThen_eq_none_iff.mp packaged).1
    have modules := (Plan.fault_andThen_eq_none_iff.mp sources).1
    rw [Plan.paths_andThen packaged, Plan.paths_andThen sources, Plan.paths_andThen modules,
      Plan.paths_ofList (fun file output made => (?placed : output.path = file.path)) modules]
    case placed =>
      obtain ⟨content, -, same⟩ := bind_eq_ok_iff.mp made
      exact Except.ok.inj same ▸ rfl
    rw [layout_withDefaults, paths_layout, sourcePaths, packagingPaths]
    by_cases module : s.module = ""
    · have package : s.package ≠ "" := fun empty =>
        (s.package_eq_empty_iff valid).mp empty module
      cases installable : s.installable <;> simp [module, package, installable, path_packageFile]
    · have package : s.package = "" := (s.package_eq_empty_iff valid).mpr module
      cases installable : s.installable <;> simp [module, package, installable]

/-! ### Distinct paths -/

theorem memberPath_injective (s : Settings) : (memberPath s).Injective := by
  intro a b same
  rw [memberPath, memberPath, String.append_left_inj, String.append_right_inj] at same
  exact same

theorem modulePath_eq_packageStem_iff {name : String} :
    modulePath name = packageStem ↔ name = packageStem := by
  have points (cs : List Char) :
      Text.replaceChar '.' ['/'] cs = cs.map fun c => if c = '.' then '/' else c := by
    rw [Text.replaceChar, List.map_eq_flatMap]
    exact List.flatMap_congr fun c _ => (apply_ite (fun c => [c]) _ _ _).symm
  refine ⟨fun same => String.toList_inj.mp ?_, ?_⟩
  case refine_2 =>
    rintro rfl
    decide
  have chars := congrArg String.toList same
  rw [modulePath, String.toList_ofList, points] at chars
  -- no character of the stem is one that replaces a point
  have fixed : ∀ c ∈ name.toList, (if c = '.' then '/' else c) = c := by
    intro c mem
    split
    · rename_i point
      have : '/' ∈ packageStem.toList := chars ▸ List.mem_map.mpr ⟨c, mem, if_pos point⟩
      exact absurd this (by decide)
    · rfl
  rw [← chars, List.map_congr_left fixed, List.map_id']

/-- The Python files are distinct if the modules of a package have distinct paths, and none is
called like the file that makes the package. -/
theorem nodup_sourcePaths_iff {p : Project} {s : Settings} : (sourcePaths p s).Nodup ↔
    (s.module = "" →
      (p.moduleNames.map modulePath).Nodup ∧ packageStem ∉ p.moduleNames) := by
  rw [sourcePaths]
  split
  · rename_i module
    have stem : packageStem ∈ p.moduleNames.map modulePath ↔ packageStem ∈ p.moduleNames := by
      simp [modulePath_eq_packageStem_iff]
    rw [List.nodup_map_iff (memberPath_injective s), List.nodup_append', List.disjoint_singleton,
      stem]
    simp [module]
  · rename_i module
    simp [module]

theorem lastChar_append {start ending : String} {c : Char}
    (last : ending.toList.getLast? = some c) : (start ++ ending).toList.getLast? = some c := by
  rw [String.toList_append, List.getLast?_append, last, Option.some_or]

theorem lastChar_of_mem_sourcePaths {p : Project} {s : Settings} {path : String}
    (mem : path ∈ sourcePaths p s) : path.toList.getLast? = some 'y' := by
  rw [sourcePaths] at mem
  split at mem
  · obtain ⟨stem, -, rfl⟩ := List.mem_map.mp mem
    exact lastChar_append (by decide)
  · rw [List.mem_singleton.mp mem]
    exact lastChar_append (by decide)

theorem lastChar_packagingPaths (s : Settings) :
    ((packagingPaths s).map (·.toList.getLast?)).Sublist [some 'l', some 'd'] := by
  have manifest : "pyproject.toml".toList.getLast? = some 'l' := by decide
  have marker : ("src/" ++ modulePath s.package ++ "/py.typed").toList.getLast? = some 'd' :=
    lastChar_append (by decide)
  rw [packagingPaths, List.map_append, apply_ite (List.map _), apply_ite (List.map _),
    List.map_singleton, List.map_singleton, manifest, marker]
  cases s.installable
  · simp
  · cases s.package != "" <;> simp

/-- The files that install the Python files replace none of them. -/
theorem nodup_append_packagingPaths_iff {p : Project} {s : Settings} :
    (sourcePaths p s ++ packagingPaths s).Nodup ↔ (sourcePaths p s).Nodup := by
  have last := lastChar_packagingPaths s
  have distinct : (packagingPaths s).Nodup := (last.nodup (by decide)).of_map
  have apart : (sourcePaths p s).Disjoint (packagingPaths s) := by
    intro path source packaging
    have mem := last.subset (List.mem_map_of_mem packaging)
    rw [lastChar_of_mem_sourcePaths source] at mem
    exact absurd mem (by decide)
  rw [List.nodup_append']
  exact ⟨And.left, fun nodup => ⟨nodup, distinct, apart⟩⟩

end Python

/-! ## Targets -/

namespace Target

/-- The paths of the files of a target, in the order of writing. -/
def outputPaths (p : Project) : Target → List String
  | discovery s => [s.path]
  | go _ => p.moduleNames.map fun name => Go.filePath (Go.packageName name)
  | python s => Python.sourcePaths p s ++ Python.packagingPaths s
  | typescript _ => p.moduleNames.map (· ++ ".ts")

/-- The names of the modules keep the files of a target apart. -/
def Separates (p : Project) : Target → Prop
  | discovery _ | typescript _ => True
  | go _ => (p.moduleNames.map Go.packageName).Nodup
  | python s => s.module = "" →
      (p.moduleNames.map Python.modulePath).Nodup ∧ Python.packageStem ∉ p.moduleNames

theorem paths_generate {p : Project} {target : Target}
    (clean : (target.generate p).fault = none) :
    (target.generate p).paths = target.outputPaths p := by
  cases target with
  | discovery s =>
      rw [generate, Discovery.generate] at clean ⊢
      split at clean
      · exact nomatch clean
      · rfl
  | go s => exact Go.paths_generate clean
  | python s => exact (Python.paths_generate clean).2
  | typescript s => exact TypeScript.paths_generate clean

theorem nodup_outputPaths_iff {p : Project} {target : Target} :
    (target.outputPaths p).Nodup ↔ target.Separates p := by
  cases target with
  | discovery s => exact iff_of_true (List.nodup_singleton _) trivial
  | go s =>
      rw [outputPaths, ← Function.comp_def, ← List.map_map,
        List.nodup_map_iff Go.filePath_injective, Separates]
  | python s =>
      rw [outputPaths, Python.nodup_append_packagingPaths_iff, Python.nodup_sourcePaths_iff,
        Separates]
  | typescript s =>
      refine iff_of_true (List.Nodup.map ?_ p.modules.nodup_keys) trivial
      exact fun a b => (String.append_left_inj ".ts").mp

end Target

namespace Generation

variable {g : Generation} {project : Project} {sink : Sink} {done : Generated}

/-- A run that succeeds reports for each of its targets the paths made from the names of the
modules. No file of the target replaces another exactly if the names keep the files apart. -/
theorem paths_nodup_iff (ran : (g.run project sink).result = .ok done) :
    ∀ name ∈ g.targetNames, ∃ target, Target.ofName name g.options = .ok target ∧
      done.get? name = some (target.outputPaths project) ∧
      ((target.outputPaths project).Nodup ↔ target.Separates project) := by
  intro name asked
  obtain ⟨target, paths, made, reported, clean, rfl⟩ := wrote_of_run ran name asked
  rw [Target.paths_generate clean] at reported
  exact ⟨target, made, reported, Target.nodup_outputPaths_iff⟩

/-- The modules `users` and `todo.items` are kept apart in a Python package and in TypeScript. -/
theorem paths_nodup_two_modules :
    let modules : List (String × Module) := [("users", .empty), ("todo.items", .empty)]
    let project : Project := ⟨⟨modules, by decide⟩⟩
    let options : Options := ⟨[("python.package", "api")], by decide⟩
    let g : Generation := ⟨["python", "typescript"], options, false⟩
    ∃ done, (g.run project (.memory .empty)).result = .ok done ∧
      ∀ name ∈ g.targetNames, ∃ target, Target.ofName name g.options = .ok target ∧
        done.get? name = some (target.outputPaths project) ∧
        ((target.outputPaths project).Nodup ↔ target.Separates project) := by
  intro modules project options g
  have success : Succeeds (g.run project (.memory .empty)).result := by decide +kernel
  obtain ⟨done, ran⟩ := success
  exact ⟨done, ran, paths_nodup_iff ran⟩

/-- A module called `__init__` is replaced by the file of the package, without a fault. -/
theorem package_file_replaces_module :
    let project : Project := ⟨⟨[("__init__", .empty)], by decide⟩⟩
    let g : Generation := ⟨["python"], ⟨[("package", "x")], by decide⟩, false⟩
    ∃ done paths, (g.run project (.memory .empty)).result = .ok done ∧
      done.get? "python" = some paths ∧ ¬paths.Nodup := by
  intro project g
  have reported : ((g.run project (.memory .empty)).result.toOption.bind (·.get? "python")) =
      some ["x/__init__.py", "x/__init__.py"] := by decide +kernel
  obtain ⟨done, ran, paths⟩ := Option.bind_eq_some_iff.mp reported
  exact ⟨done, _, toOption_eq_some_iff.mp ran, paths, by decide⟩

end Generation

end ApiCompiler
