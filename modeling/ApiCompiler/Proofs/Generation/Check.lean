import ApiCompiler.Proofs.Generation.Paths
import ApiCompiler.Proofs.Project.Acceptance
import ApiCompiler.Proofs.Target.Options

/-!
# Checks without options

A check runs the same targets as a run, with placeholders for the options that targets cannot do
without. Whether there is such an option is asked for its exact key, but keys are read without
regard to case. So a run can succeed with an option that the check does not see, and the
placeholder then stands beside it.
-/

namespace ApiCompiler

open Fallible Text

/-! ## Placeholders among the options -/

namespace Options

theorem hasAny_eq_false_iff {options : Options} {target : String} {keys : List String} :
    options.hasAny target keys = false ↔
      ∀ key ∈ keys, options.get? key = none ∧ options.get? (target ++ "." ++ key) = none := by
  simp [hasAny, OrderedMap.contains]

theorem get?_forTarget_eq_none {options : Options} {target key : String} {keys : List String}
    (lacks : (!options.hasAny target keys) = true) (mem : key ∈ keys) :
    (options.forTarget target).get? key = none := by
  obtain ⟨plain, below⟩ := hasAny_eq_false_iff.mp ((Bool.not_eq_true' _).mp lacks) key mem
  rw [get?_forTarget, plain, below, ite_self, Option.or_none]

/-- The Python target has neither of the options of which it needs one. -/
def lacksPython (options : Options) : Bool := !options.hasAny "python" ["module", "package"]

/-- The Go target has not the option that it needs. -/
def lacksGo (options : Options) : Bool := !options.hasAny "go" ["import_path"]

theorem get?_withCheckDefaults (options : Options) (key : String) :
    options.withCheckDefaults.get? key =
      if key = "python.module" ∧ options.lacksPython then some "api"
      else if key = "go.import_path" ∧ options.lacksGo then some "example.com/api"
      else options.get? key := by
  have go (filled : Options) (same : filled.hasAny "go" ["import_path"] =
      options.hasAny "go" ["import_path"]) :
      (if filled.hasAny "go" ["import_path"] then filled
        else filled.insert "go.import_path" "example.com/api").get? key =
        if key = "go.import_path" ∧ options.lacksGo then some "example.com/api"
        else filled.get? key := by
    rw [same, lacksGo]
    cases options.hasAny "go" ["import_path"]
    · simp [OrderedMap.get?_insert, eq_comm]
    · simp
  unfold withCheckDefaults lacksPython
  cases options.hasAny "python" ["module", "package"]
  · refine (go _ ?_).trans ?_
    · simp [hasAny, OrderedMap.contains, OrderedMap.get?_insert]
    · rw [if_neg Bool.false_ne_true, OrderedMap.get?_insert]
      by_cases first : key = "python.module"
      · simp [first]
      · simp [first, Ne.symm first]
  · exact (go options rfl).trans (by simp)

theorem get?_forTarget_withCheckDefaults (options : Options) {target : String}
    (plain : isPlain target = true) (key : String) :
    (options.withCheckDefaults.forTarget target).get? key =
      if (target = "python" ∧ key = "module") ∧ options.lacksPython then some "api"
      else if (target = "go" ∧ key = "import_path") ∧ options.lacksGo then some "example.com/api"
      else (options.forTarget target).get? key := by
  have python : "python.module" = "python" ++ "." ++ "module" := by decide
  have go : "go.import_path" = "go" ++ "." ++ "import_path" := by decide
  -- a key without a scope is none of the placeholders
  have unscoped : (if isPlain key then options.withCheckDefaults.get? key else none) =
      if isPlain key then options.get? key else none := by
    split
    · rename_i short
      rw [get?_withCheckDefaults, if_neg, if_neg]
      · rintro ⟨rfl, -⟩
        exact absurd short (by decide)
      · rintro ⟨rfl, -⟩
        exact absurd short (by decide)
    · rfl
  rw [get?_forTarget, get?_forTarget, unscoped, get?_withCheckDefaults, python, go]
  simp only [scoped_eq_iff plain (by decide : isPlain "python" = true),
    scoped_eq_iff plain (by decide : isPlain "go" = true)]
  split
  · rfl
  · split
    · rfl
    · rfl

/-- Options that decode do so with a placeholder: to the same if it is not needed, and else to what
it makes of them. -/
theorem decode_of_filled {O : Type} {keys : List (Key O)} {R : O → O → Prop} {target : String}
    {start o : O} {options others : Options} {key value : String} {lacks : Bool}
    (keeps : ∀ k ∈ keys, k.Keeps R) (sets : ∀ o, ∃ o', decodeOne keys key value o = .ok o' ∧ R o o')
    (fresh : lacks = true → options.get? key = none)
    (added : ∀ k, others.get? k = if k = key ∧ lacks then some value else options.get? k)
    (decoded : decode target keys start options = .ok o) :
    ∃ o', decode target keys start others = .ok o' ∧ if lacks then R o o' else o' = o := by
  cases lacks with
  | false =>
      refine ⟨o, ?_, rfl⟩
      rw [← decoded]
      exact decode_congr fun k => by simpa using added k
  | true => exact decode_of_added keeps sets (fresh rfl) (fun k => by simpa using added k) decoded

theorem succeeds_checkScopes_iff {options : Options} :
    Succeeds options.checkScopes ↔ ∀ key value, options.get? key = some value →
      ∀ scope rest, cut '.' key = some (scope, rest) → scope ∈ targetNames := by
  rw [checkScopes, succeeds_forM_iff, Prod.forall]
  refine forall₂_congr fun key value => ?_
  rw [mem_sorted_iff]
  refine imp_congr_right fun _ => ?_
  dsimp only
  cases cut '.' key with
  | none => exact iff_of_true (succeeds_ok _) nofun
  | some parts =>
      obtain ⟨scope, rest⟩ := parts
      dsimp only
      by_cases known : scope ∈ targetNames
      · simp [known]
      · simp [known]

/-- Placeholders are scoped to targets. -/
theorem succeeds_checkScopes_withCheckDefaults {options : Options}
    (checked : Succeeds options.checkScopes) : Succeeds options.withCheckDefaults.checkScopes := by
  rw [succeeds_checkScopes_iff] at checked ⊢
  intro key value found scope rest divided
  rw [get?_withCheckDefaults] at found
  split at found
  · rename_i placed
    rw [placed.1] at divided
    cases divided
    decide
  · split at found
    · rename_i placed
      rw [placed.1] at divided
      cases divided
      decide
    · exact checked key value found scope rest divided

end Options

/-! ## Settings of a check -/

/-- Python settings with the placeholder, unless a module is set in its place. -/
def Python.Settings.Filled (s s' : Settings) : Prop :=
  s' = { s with module := "api" } ∨ s' = s ∧ s.module ≠ ""

/-- Go settings with the placeholder, unless an import path is set in its place. -/
def Go.Settings.Filled (s s' : Settings) : Prop :=
  s' = { s with importPath := "example.com/api" } ∨ s' = s ∧ s.importPath ≠ ""

open Options in
theorem Python.Settings.keeps_filled : ∀ k ∈ keys, k.Keeps Filled := by
  -- every key but that of the module leaves the module alone
  have other {A : Type} {name : String} {read : String → Option A} {put : A → Settings → Settings}
      (same : ∀ v s, (put v s).module = s.module)
      (commutes : ∀ v s, put v { s with module := "api" } = { put v s with module := "api" }) :
      (⟨name, fun s o => (read s).map fun a => put a o⟩ : Key Settings).Keeps Filled := by
    refine Key.keeps_map fun v s s' filled => ?_
    rcases filled with rfl | ⟨rfl, set⟩
    · exact .inl (commutes v s)
    · exact .inr ⟨rfl, by rwa [same]⟩
  have text {name : String} {put : String → Settings → Settings}
      (same : ∀ v s, (put v s).module = s.module)
      (commutes : ∀ v s, put v { s with module := "api" } = { put v s with module := "api" }) :
      (Key.text name put).Keeps Filled := by
    have kept : (⟨name, fun s o => (some s).map fun v => put v o⟩ : Key Settings).Keeps Filled :=
      other same commutes
    exact kept
  have module :
      (Key.text "module" fun v (s : Settings) => { s with module := v }).Keeps Filled := by
    refine Key.keeps_text fun v given s s' filled => ?_
    rcases filled with rfl | ⟨rfl, -⟩
    · exact .inr ⟨rfl, given⟩
    · exact .inr ⟨rfl, given⟩
  simp only [keys, List.forall_mem_cons]
  refine ⟨module, text ?_ ?_, other ?_ ?_, text ?_ ?_, text ?_ ?_, text ?_ ?_, text ?_ ?_,
    other ?_ ?_, nofun⟩
  all_goals exact fun _ _ => rfl

open Options in
theorem Go.Settings.keeps_filled : ∀ k ∈ keys, k.Keeps Filled := by
  rw [keys, List.forall_mem_singleton]
  refine Key.keeps_text fun v given s s' filled => ?_
  rcases filled with rfl | ⟨rfl, -⟩
  · exact .inr ⟨rfl, given⟩
  · exact .inr ⟨rfl, given⟩

namespace Target

/-- What a check makes of a target: its settings are the same, but for a placeholder of what
is not given. -/
def Filled (options : Options) : Target → Target → Prop
  | discovery s, discovery s' => s' = s
  | go s, go s' => if options.lacksGo then s.Filled s' else s' = s
  | python s, python s' => if options.lacksPython then s.Filled s' else s' = s
  | typescript s, typescript s' => s' = s
  | _, _ => False

open Options in
/-- A target that can be made of some options can be made of those of a check. -/
theorem exists_filled {name : String} {options : Options} {t : Target}
    (made : ofName name options = .ok t) :
    ∃ t', ofName name options.withCheckDefaults = .ok t' ∧ Filled options t t' := by
  have looked (target : String) (plain : isPlain target = true) :=
    get?_forTarget_withCheckDefaults options plain
  have go : options.lacksGo = true → (options.forTarget "go").get? "import_path" = none :=
    fun lacks => get?_forTarget_eq_none lacks (List.mem_singleton_self _)
  have python : options.lacksPython = true → (options.forTarget "python").get? "module" = none :=
    fun lacks => get?_forTarget_eq_none lacks List.mem_cons_self
  unfold ofName at made ⊢
  split at made
  · obtain ⟨s, decoded, same⟩ := bind_eq_ok_iff.mp made
    cases same
    have again : Discovery.Settings.decode options.withCheckDefaults = .ok s := by
      rw [← decoded]
      exact decode_congr fun key => by simpa using looked "discovery" (by decide) key
    exact ⟨.discovery s, bind_eq_ok_iff.mpr ⟨s, again, rfl⟩, rfl⟩
  · obtain ⟨s, decoded, same⟩ := bind_eq_ok_iff.mp made
    cases same
    obtain ⟨s', again, filled⟩ := decode_of_filled Go.Settings.keeps_filled
      (fun o => ⟨_, rfl, .inl rfl⟩) go
      (fun key => by simpa using looked "go" (by decide) key) decoded
    exact ⟨.go s', bind_eq_ok_iff.mpr ⟨s', again, rfl⟩, filled⟩
  · obtain ⟨s, decoded, same⟩ := bind_eq_ok_iff.mp made
    cases same
    obtain ⟨s', again, filled⟩ := decode_of_filled Python.Settings.keeps_filled
      (fun o => ⟨_, rfl, .inl rfl⟩) python
      (fun key => by simpa using looked "python" (by decide) key) decoded
    exact ⟨.python s', bind_eq_ok_iff.mpr ⟨s', again, rfl⟩, filled⟩
  · obtain ⟨s, decoded, same⟩ := bind_eq_ok_iff.mp made
    cases same
    have again : TypeScript.Settings.decode options.withCheckDefaults = .ok s := by
      rw [← decoded]
      exact decode_congr fun key => by simpa using looked "typescript" (by decide) key
    exact ⟨.typescript s, bind_eq_ok_iff.mpr ⟨s, again, rfl⟩, rfl⟩
  · exact nomatch made

end Target

/-! ## Which targets pass -/

/-- A target plans all its files, and all of them may be written. -/
structure Target.Passes (cancelled : Bool) (project : Project) (t : Target) : Prop where
  planned : (t.generate project).fault = none
  permitted : ∀ path ∈ (t.generate project).paths, OutputPath.permit cancelled path = .ok ()

theorem OutputPath.not_cancelled_of_permit {cancelled : Bool} {path : String}
    (permitted : permit cancelled path = .ok ()) : cancelled = false := by
  cases cancelled with
  | false => rfl
  | true =>
      obtain ⟨_, -, refused⟩ := bind_eq_ok_iff.mp permitted
      exact nomatch refused

/-- Every sink asks whether a file may be written. -/
theorem Sink.permit_of_write {cancelled : Bool} {file : OutputFile} {sink : Sink}
    (written : (sink.write cancelled file).2 = none) :
    OutputPath.permit cancelled file.path = .ok () := by
  cases permitted : OutputPath.permit cancelled file.path with
  | ok => rfl
  | error e =>
      cases sink with
      | memory files =>
          simp [write, Memory.write, permitted, bind, Except.bind] at written
      | stream s => simp [write, Stream.write, permitted] at written
      | directory d disk =>
          simp [write, Directory.write, Directory.writeUnder, Directory.run, Circumstances.plain,
            permitted] at written

/-- Memory takes every file that may be written. -/
theorem Sink.exists_write_memory {cancelled : Bool} {file : OutputFile}
    (permitted : OutputPath.permit cancelled file.path = .ok ()) (files : Memory) :
    ∃ files', (memory files).write cancelled file = (memory files', none) := by
  simp [write, Memory.write, permitted, bind, Except.bind, pure, Except.pure]

namespace Generation

variable {g : Generation} {project : Project} {sink : Sink}

theorem permit_of_writeFiles {cancelled : Bool} {target : String} {files : List OutputFile}
    (clean : (writeFiles cancelled target files sink).fault = none) :
    ∀ file ∈ files, OutputPath.permit cancelled file.path = .ok () := by
  induction files generalizing sink with
  | nil => exact List.forall_mem_nil _
  | cons file rest ih =>
      rw [writeFiles] at clean
      split at clean
      · cases clean
      · rename_i next written
        exact List.forall_mem_cons.mpr ⟨Sink.permit_of_write (congrArg Prod.snd written), ih clean⟩

theorem exists_writeFiles_memory {cancelled : Bool} (target : String) {files : List OutputFile}
    (permitted : ∀ file ∈ files, OutputPath.permit cancelled file.path = .ok ())
    (kept : Memory) : ∃ kept', (writeFiles cancelled target files (.memory kept)).fault = none ∧
      (writeFiles cancelled target files (.memory kept)).sink = .memory kept' := by
  induction files generalizing kept with
  | nil => exact ⟨kept, rfl, rfl⟩
  | cons file rest ih =>
      obtain ⟨first, others⟩ := List.forall_mem_cons.mp permitted
      obtain ⟨next, written⟩ := Sink.exists_write_memory first kept
      rw [writeFiles, written]
      exact ih others next

theorem passes_of_runTarget {target : Target}
    (clean : (g.runTarget project target sink).fault = none) :
    target.Passes g.cancelled project := by
  rw [runTarget, Option.map_eq_none_iff, Option.or_eq_none_iff] at clean
  refine ⟨clean.2, fun path mem => ?_⟩
  obtain ⟨file, inside, rfl⟩ := List.mem_map.mp mem
  exact permit_of_writeFiles clean.1 file inside

theorem exists_runTarget_memory {target : Target} (passes : target.Passes g.cancelled project)
    (kept : Memory) : ∃ kept', (g.runTarget project target (.memory kept)).fault = none ∧
      (g.runTarget project target (.memory kept)).sink = .memory kept' := by
  obtain ⟨kept', clean, held⟩ := exists_writeFiles_memory target.name
    (fun file mem => passes.permitted _ (List.mem_map_of_mem mem)) kept
  refine ⟨kept', ?_, held⟩
  rw [runTarget, Option.map_eq_none_iff, Option.or_eq_none_iff]
  exact ⟨clean, passes.planned⟩

theorem passes_of_runTargets {targets : List Target} {done : Generated}
    (ran : Succeeds (g.runTargets project targets sink done).result) :
    ∀ t ∈ targets, t.Passes g.cancelled project := by
  induction targets generalizing sink done with
  | nil => exact nofun
  | cons target rest ih =>
      rw [runTargets] at ran
      cases clean : (g.runTarget project target sink).fault with
      | some e =>
          rw [clean] at ran
          exact absurd ran (not_succeeds_error e)
      | none =>
          rw [clean] at ran
          exact List.forall_mem_cons.mpr ⟨passes_of_runTarget clean, ih ran⟩

theorem succeeds_runTargets_memory {targets : List Target}
    (passes : ∀ t ∈ targets, t.Passes g.cancelled project) (kept : Memory) (done : Generated) :
    Succeeds (g.runTargets project targets (.memory kept) done).result := by
  induction targets generalizing kept done with
  | nil => exact succeeds_ok done
  | cons target rest ih =>
      obtain ⟨first, others⟩ := List.forall_mem_cons.mp passes
      obtain ⟨kept', clean, held⟩ := exists_runTarget_memory first kept
      rw [runTargets, clean]
      dsimp only
      rw [held]
      exact ih others kept' _

/-- A run that succeeds, whatever it writes to, ran targets that pass. -/
theorem passes_of_run (ran : Succeeds (g.run project sink).result) :
    ∃ targets, g.resolve = .ok targets ∧ ∀ t ∈ targets, t.Passes g.cancelled project := by
  rw [run] at ran
  cases resolved : g.resolve with
  | error e =>
      rw [resolved] at ran
      exact absurd ran (not_succeeds_error e)
  | ok targets =>
      rw [resolved] at ran
      exact ⟨targets, rfl, passes_of_runTargets ran⟩

/-- The run that a check makes, but for where it writes to. -/
def forCheck (g : Generation) : Generation :=
  { g with options := g.options.withCheckDefaults }

/-- A check succeeds exactly if its targets pass. -/
theorem succeeds_check_iff {filled : List Target} (resolved : g.forCheck.resolve = .ok filled) :
    Succeeds (g.check project) ↔ ∀ t ∈ filled, t.Passes g.cancelled project := by
  change Succeeds ((g.forCheck.run project (.memory .empty)).result.map fun _ => ()) ↔ _
  rw [succeeds_map_iff]
  constructor
  · intro ran
    obtain ⟨targets, again, passes⟩ := passes_of_run ran
    cases resolved.symm.trans again
    exact passes
  · intro passes
    rw [run, resolved]
    dsimp only
    exact succeeds_runTargets_memory (g := g.forCheck) passes .empty .empty

theorem exists_made_filled {options : Options} {names : List String} {targets : List Target}
    (made : List.Forall₂ (fun name t => Target.ofName name options = .ok t) names targets) :
    ∃ filled, List.Forall₂
        (fun name t => Target.ofName name options.withCheckDefaults = .ok t) names filled ∧
      List.Forall₂ (Target.Filled options) targets filled := by
  induction made with
  | nil => exact ⟨[], .nil, .nil⟩
  | cons first _ ih =>
      obtain ⟨t', again, related⟩ := Target.exists_filled first
      obtain ⟨rest, others, others'⟩ := ih
      exact ⟨t' :: rest, .cons again others, .cons related others'⟩

/-- The options of a check are refused by no target that took those of the run. -/
theorem exists_resolve_forCheck {targets : List Target} (resolved : g.resolve = .ok targets) :
    ∃ filled, g.forCheck.resolve = .ok filled ∧
      List.Forall₂ (Target.Filled g.options) targets filled := by
  obtain ⟨_, scopes, made⟩ := bind_eq_ok_iff.mp resolved
  obtain ⟨done, scopes'⟩ := Options.succeeds_checkScopes_withCheckDefaults ⟨_, scopes⟩
  obtain ⟨filled, made', related⟩ := exists_made_filled (mapM_eq_ok_iff.mp made)
  exact ⟨filled, bind_eq_ok_iff.mpr ⟨done, scopes', mapM_eq_ok_iff.mpr made'⟩, related⟩

end Generation

/-! ## Which placeholders fit -/

namespace Go

variable {p : Project} {s : Settings}

theorem SourceFile.succeeds_checkComments_iff {documentation : List RawText} {file : SourceFile} :
    Succeeds (file.checkComments documentation) ↔ ∀ d ∈ documentation, d.isText = true := by
  simp only [Succeeds, checkComments_eq_ok_iff, exists_and_left, exists_eq', and_true]

theorem succeeds_sourceFile_iff {name : String} :
    Succeeds (sourceFile p name s) ↔ ∃ m, p.module? name = some m ∧
      (Accepts m ∧ ∀ r ∈ typeReferences m, p.Converts r) ∧
        ∀ d ∈ m.documentation, d.isText = true := by
  rw [sourceFile, Project.succeeds_getModule_bind_iff]
  refine exists_congr fun m => and_congr_right fun _ => ?_
  dsimp only
  rw [succeeds_bind_iff fun _ _ => SourceFile.succeeds_checkComments_iff]
  exact and_congr_left' ((reads_moduleDeclarations ⟨p, name, m, s.importPath⟩ _).succeeds_iff p)

/-- Every source file of a project has a standard form. -/
def IsFormattable (p : Project) (s : Settings) : Prop :=
  ∀ name ∈ p.moduleNames, ∀ file, sourceFile p name s = .ok file → Succeeds file.format

theorem fault_generate_eq_none_iff : (generate p s).fault = none ↔
    s.importPath ≠ "" ∧ checkImportCycles p = .ok () ∧
      (∀ name ∈ p.moduleNames, Succeeds (sourceFile p name s)) ∧ IsFormattable p s := by
  have rendered (name : String) : Succeeds (renderModule p name s) ↔
      Succeeds (sourceFile p name s) ∧
        ∀ file, sourceFile p name s = .ok file → Succeeds file.format :=
    succeeds_bind_iff fun file drafted => by simp [drafted]
  rw [generate, Settings.validate]
  by_cases unset : s.importPath = ""
  · simp [unset, Plan.failed]
  · cases checkImportCycles p with
    | error e => simp [unset, Plan.failed]
    | ok =>
        simp only [beq_iff_eq, unset, if_false, Plan.fault_ofList_eq_none_iff]
        rw [and_iff_right (Ne.intro unset), true_and, IsFormattable, ← forall₂_and]
        refine forall₂_congr fun name _ => ?_
        rw [← rendered, succeeds_bind_iff_left fun _ _ => succeeds_pure _, succeeds_labelled_iff]

end Go

namespace Python

variable {p : Project} {s : Settings}

/-- However the modules are laid out, the same modules are rendered. -/
theorem fault_generate_eq_none_iff : (generate p s).fault = none ↔
    s.validate = .ok () ∧ ∀ name ∈ p.moduleNames, ∃ m, p.module? name = some m ∧ Accepts m ∧
      ∀ r ∈ Go.typeReferences m, p.Converts r := by
  have files (file : File) (indent : Nat) (source : String → String) :
      Succeeds (labelled ("python: " ++ file.name) (renderFile p file.modules indent source) >>=
        fun content => pure (⟨file.path, content⟩ : OutputFile)) ↔
        ∀ name ∈ file.modules, ∃ m, p.module? name = some m ∧ Accepts m ∧
          ∀ r ∈ Go.typeReferences m, p.Converts r := by
    rw [succeeds_bind_iff_left fun _ _ => succeeds_pure _, succeeds_labelled_iff,
      succeeds_renderFile_iff]
  have covered : (layout p s).flatMap File.modules = p.moduleNames := by
    rw [layout]
    split
    · simp
    · simp [List.flatMap_map]
  rw [generate]
  cases valid : s.validate with
  | error e => simp [Plan.failed]
  | ok =>
      simp only [Plan.fault_andThen_eq_none_iff, Plan.fault_ofList_eq_none_iff,
        layout_withDefaults, files, true_and]
      rw [← covered]
      simp only [List.forall_mem_flatMap, apply_ite Plan.fault, Plan.empty, Plan.single, ite_self,
        and_true]

/-- What is asked of settings that write one Python module. -/
theorem Settings.validate_of_single (single : s.package = "") (named : s.module ≠ "") :
    s.validate =
      if !s.installable && (s.distName != "" || s.version != "" || s.description != "") then
        .error (.config .notInstallable)
      else if isDottedName s.module then .ok ()
      else .error (.config (.badModuleName s.module)) := by
  rw [validate]
  cases !s.installable && (s.distName != "" || s.version != "" || s.description != "") with
  | true => simp [single, named, bind, Except.bind, throw, throwThe, MonadExceptOf.throw]
  | false =>
      cases proper : isDottedName s.module with
      | true => simp [single, named, proper, bind, Except.bind, pure, Except.pure]
      | false => simp [single, named, proper, bind, Except.bind]

/-- Settings of one module are as good with the placeholder. -/
theorem Settings.validate_placeholder (valid : s.validate = .ok ()) (single : s.package = "") :
    { s with module := "api" }.validate = .ok () := by
  have named : s.module ≠ "" := (s.package_eq_empty_iff valid).mp single
  have proper : isDottedName "api" = true := by decide
  rw [validate_of_single single named] at valid
  refine (validate_of_single (s := { s with module := "api" }) single (by simp)).trans ?_
  split at valid
  · exact nomatch valid
  · rename_i installs
    rw [if_neg installs, if_pos proper]

theorem permit_placeholder_paths (single : s.package = "") :
    ∀ path ∈ (Target.python { s with module := "api" }).outputPaths p,
      OutputPath.permit false path = .ok () := by
  have paths : (Target.python { s with module := "api" }).outputPaths p =
      if s.installable then ["src/api.py", "pyproject.toml"] else ["api.py"] := by
    simp only [Target.outputPaths, sourcePaths, packagingPaths, Settings.sourceDirectory, single]
    cases s.installable with
    | false => rfl
    | true => rfl
  rw [paths]
  cases s.installable with
  | false => decide
  | true => decide

end Python

namespace Target

/-- What stands beside a placeholder lets the target run. -/
def Fits (p : Project) : Target → Prop
  | discovery _ | typescript _ => True
  | go s => Go.IsFormattable p s
  | python s => s.module = "" ∨ s.package = ""

variable {p : Project} {options : Options} {cancelled : Bool} {t t' : Target}

theorem passes_iff : t.Passes cancelled p ↔ (t.generate p).fault = none ∧
    ∀ path ∈ t.outputPaths p, OutputPath.permit cancelled path = .ok () := by
  constructor
  · intro passes
    exact ⟨passes.planned, paths_generate passes.planned ▸ passes.permitted⟩
  · rintro ⟨planned, permitted⟩
    exact ⟨planned, (paths_generate planned).symm ▸ permitted⟩

theorem fits_of_passes (passes : t.Passes cancelled p) : t.Fits p := by
  cases t with
  | discovery s => trivial
  | typescript s => trivial
  | go s => exact (Go.fault_generate_eq_none_iff.mp passes.planned).2.2.2
  | python s =>
      have valid := (Python.fault_generate_eq_none_iff.mp passes.planned).1
      by_cases single : s.package = ""
      · exact .inr single
      · exact .inl (of_not_not fun set => single ((s.package_eq_empty_iff valid).mpr set))

/-- The placeholder of the Go target decides on no path. -/
theorem passes_go_filled {s s' : Go.Settings} (passes : (go s).Passes cancelled p)
    (filled : s.Filled s') (fits : (go s').Fits p) : (go s').Passes cancelled p := by
  rcases filled with rfl | ⟨rfl, -⟩
  · obtain ⟨planned, permitted⟩ := passes_iff.mp passes
    obtain ⟨-, acyclic, drafted, -⟩ := Go.fault_generate_eq_none_iff.mp planned
    refine passes_iff.mpr ⟨Go.fault_generate_eq_none_iff.mpr ⟨by decide, acyclic, ?_, fits⟩,
      permitted⟩
    intro name mem
    exact Go.succeeds_sourceFile_iff.mpr (Go.succeeds_sourceFile_iff.mp (drafted name mem))
  · exact passes

theorem passes_python_filled {s s' : Python.Settings} (passes : (python s).Passes cancelled p)
    (filled : s.Filled s') (fits : (python s').Fits p) : (python s').Passes cancelled p := by
  rcases filled with rfl | ⟨rfl, -⟩
  · have single : s.package = "" := fits.resolve_left (by simp)
    obtain ⟨planned, permitted⟩ := passes_iff.mp passes
    obtain ⟨valid, accepted⟩ := Python.fault_generate_eq_none_iff.mp planned
    refine passes_iff.mpr ⟨Python.fault_generate_eq_none_iff.mpr
      ⟨Python.Settings.validate_placeholder valid single, accepted⟩, ?_⟩
    -- the run wrote the module, so it was not cancelled
    have named : s.module ≠ "" := (s.package_eq_empty_iff valid).mp single
    have written : s.sourceDirectory ++ Python.modulePath s.module ++ ".py" ∈
        (python s).outputPaths p := by
      rw [outputPaths, Python.sourcePaths, if_neg named]
      exact List.mem_append_left _ List.mem_cons_self
    rw [OutputPath.not_cancelled_of_permit (permitted _ written)]
    exact Python.permit_placeholder_paths single
  · exact passes

/-- A target that passes passes with its placeholder exactly if that fits. -/
theorem passes_filled_iff (passes : t.Passes cancelled p) (filled : Filled options t t') :
    t'.Passes cancelled p ↔ t'.Fits p := by
  refine ⟨fits_of_passes, fun fits => ?_⟩
  cases t with
  | discovery s =>
      cases t' with
      | discovery s' => exact filled ▸ passes
      | _ => exact nomatch filled
  | typescript s =>
      cases t' with
      | typescript s' => exact filled ▸ passes
      | _ => exact nomatch filled
  | go s =>
      cases t' with
      | go s' =>
          rw [Filled] at filled
          split at filled
          · exact passes_go_filled passes filled fits
          · exact filled ▸ passes
      | _ => exact nomatch filled
  | python s =>
      cases t' with
      | python s' =>
          rw [Filled] at filled
          split at filled
          · exact passes_python_filled passes filled fits
          · exact filled ▸ passes
      | _ => exact nomatch filled

/-- A target needs an option that is not there under its exact key. -/
def lacks (options : Options) : Target → Bool
  | discovery _ | typescript _ => false
  | go _ => options.lacksGo
  | python _ => options.lacksPython

/-- A Python target that writes a package. -/
def writesPackage : Target → Bool
  | python s => s.package != ""
  | _ => false

theorem filled_eq_of_lacks (filled : Filled options t t') (complete : t.lacks options = false) :
    t' = t := by
  cases t <;> cases t' <;> simp_all [Filled, lacks]

end Target

/-! ## Checks -/

namespace Generation

variable {g : Generation} {project : Project} {sink : Sink}

/-- If a run succeeds, whatever it writes to, a check gets to its targets. They are those of the
run but for placeholders, and the check succeeds exactly if all placeholders fit: a Python module
does not stand beside a package, and the Go files have a standard form with the import path. There
are no placeholders for a target that has what it needs under an exact key, and with none the check
succeeds. -/
theorem check_exact (ran : Succeeds (g.run project sink).result) :
    ∃ targets filled, g.resolve = .ok targets ∧ g.forCheck.resolve = .ok filled ∧
      List.Forall₂ (Target.Filled g.options) targets filled ∧
      (Succeeds (g.check project) ↔ ∀ t ∈ filled, t.Fits project) ∧
      ((∀ t ∈ targets, t.lacks g.options = false) →
        filled = targets ∧ Succeeds (g.check project)) := by
  obtain ⟨targets, resolved, passes⟩ := passes_of_run ran
  obtain ⟨filled, resolved', related⟩ := exists_resolve_forCheck resolved
  have exact : ∀ t' ∈ filled, t'.Passes g.cancelled project ↔ t'.Fits project := by
    intro t' mem
    obtain ⟨t, ran, made⟩ := (mem_of_forall₂ related).2 t' mem
    exact Target.passes_filled_iff (passes t ran) made
  have checked : Succeeds (g.check project) ↔ ∀ t ∈ filled, t.Fits project := by
    rw [succeeds_check_iff resolved']
    exact forall₂_congr exact
  refine ⟨targets, filled, resolved, resolved', related, checked, fun complete => ?_⟩
  have same : targets = filled := by
    have each := (List.forall₂_and_left targets filled).mpr ⟨complete, related⟩
    rw [← List.forall₂_eq_eq_eq]
    exact each.imp fun t t' ⟨complete, made⟩ => (Target.filled_eq_of_lacks made complete).symm
  subst same
  refine ⟨rfl, checked.mpr ?_⟩
  exact fun t mem => Target.fits_of_passes (passes t mem)

/-- A Python package that is asked for under the exact key is checked as it is generated, and a Go
package that is not asked for gets a placeholder. -/
theorem check_exact_package :
    let project : Project := ⟨⟨[("users", .empty)], by decide⟩⟩
    let g : Generation := ⟨["python"], ⟨[("package", "api")], by decide⟩, false⟩
    Succeeds (g.run project (.memory .empty)).result ∧
      ∃ targets filled, g.resolve = .ok targets ∧ g.forCheck.resolve = .ok filled ∧
        List.Forall₂ (Target.Filled g.options) targets filled ∧
        (Succeeds (g.check project) ↔ ∀ t ∈ filled, t.Fits project) ∧
        ((∀ t ∈ targets, t.lacks g.options = false) →
          filled = targets ∧ Succeeds (g.check project)) := by
  intro project g
  have ran : Succeeds (g.run project (.memory .empty)).result := by decide +kernel
  exact ⟨ran, check_exact ran⟩

/-- A package under a key that a check does not see is refused. -/
theorem not_succeeds_check_of_package {targets : List Target} {t : Target}
    (resolved : g.resolve = .ok targets) (asked : t ∈ targets) (package : t.writesPackage = true)
    (unseen : g.options.lacksPython = true) : ¬Succeeds (g.check project) := by
  intro checked
  obtain ⟨filled, resolved', related⟩ := exists_resolve_forCheck resolved
  obtain ⟨t', mem, made⟩ := (mem_of_forall₂ related).1 t asked
  have fits := Target.fits_of_passes ((succeeds_check_iff resolved').mp checked t' mem)
  cases t with
  | python s =>
      cases t' with
      | python s' =>
          rw [Target.Filled, if_pos unseen] at made
          simp only [Target.writesPackage, bne_iff_ne] at package
          rcases made with rfl | ⟨rfl, set⟩
          · rcases fits with module | single
            · exact absurd module (by simp)
            · exact package single
          · rcases fits with module | single
            · exact set module
            · exact package single
      | _ => exact made
  | _ => exact nomatch package

/-- With a package under a key in another case a run succeeds, and a check fails: a placeholder
for the module stands beside the package. -/
theorem check_refuses_cased_key :
    let project : Project := ⟨⟨[("users", .empty)], by decide⟩⟩
    let g : Generation := ⟨["python"], ⟨[("python.Package", "api")], by decide⟩, false⟩
    Succeeds (g.run project (.memory .empty)).result ∧ ¬Succeeds (g.check project) := by
  intro project g
  have written : (g.resolve.toOption.map (·.map Target.writesPackage)) = some [true] := by
    decide +kernel
  obtain ⟨targets, resolved, each⟩ := Option.map_eq_some_iff.mp written
  obtain ⟨t, rfl, package⟩ := List.map_eq_singleton_iff.mp each
  refine ⟨by decide +kernel, not_succeeds_check_of_package (toOption_eq_some_iff.mp resolved)
    (List.mem_singleton_self t) package (by decide +kernel)⟩

end Generation

end ApiCompiler
