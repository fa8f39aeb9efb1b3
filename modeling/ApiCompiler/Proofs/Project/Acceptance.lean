import ApiCompiler.Proofs.Describe.Build
import ApiCompiler.Proofs.Project.Extension

/-!
# Which projects are accepted

On a checked project the targets differ only in the names of arguments that they
refuse. Everything else that could fail is either ruled out by the checks or is the
conversion of a reference, and all targets convert the same references.
-/

namespace ApiCompiler

open Fallible

variable {p : Project}

/-! ## Valid modules -/

theorem TypeScript.accepts_of_isValid {m : Module} (valid : m.IsValid) : Accepts m :=
  ⟨valid.types, fun e mem => (valid.endpoints e mem).resolves⟩

theorem Python.isSome_errorBase? {code : ErrorCode} (known : code.isKnown = true) :
    (errorBase? code).isSome = true := by
  cases code with
  | other name => exact nomatch known
  | _ => rfl

theorem Python.accepts_iff_of_isValid {m : Module} (valid : m.IsValid) :
    Accepts m ↔ ∀ e ∈ m.endpointList, ∀ a ∈ e.2.argumentList, collides a.1 = false :=
  ⟨Accepts.arguments, fun arguments =>
    ⟨valid.types, fun e mem => isSome_errorBase? (valid.errors e mem), arguments⟩⟩

/-! ## One module -/

theorem TypeScript.succeeds_renderModule_iff {name : String} {settings : Settings} :
    Succeeds (renderModule p name settings) ↔
      ∃ m, p.module? name = some m ∧ Accepts m ∧ ∀ r ∈ Go.typeReferences m, p.Converts r := by
  rw [renderModule, Project.succeeds_getModule_bind_iff]
  refine exists_congr fun m => and_congr_right fun _ => ?_
  rw [succeeds_bind_iff_left fun _ _ => succeeds_pure _]
  exact (reads_pieces _ ⟨p, name, m⟩ _).succeeds_iff p

theorem Python.succeeds_renderFile_iff {modules : List String} {indent : Nat}
    {source : String → String} :
    Succeeds (renderFile p modules indent source) ↔
      ∀ name ∈ modules, ∃ m, p.module? name = some m ∧ Accepts m ∧
        ∀ r ∈ Go.typeReferences m, p.Converts r := by
  rw [renderFile, new_eq_ok]
  exact (succeeds_bind_iff_left fun _ _ => succeeds_pure _).trans succeeds_fileDeclarations_iff

theorem ServiceDraft.succeeds_ofModule_iff {module : String} :
    Succeeds (ofModule p module) ↔
      ∃ m, p.module? module = some m ∧
        (∀ e ∈ m.endpointList, ∀ a ∈ e.2.argumentList, a.1 ≠ credentialsArgument) ∧
        ∀ r ∈ m.endpointList.flatMap fun e => e.2.references, p.Converts r := by
  rw [ofModule, Project.succeeds_getModule_bind_iff]
  refine exists_congr fun m => and_congr_right fun _ => ?_
  rw [← (reads_describeEndpoints module m).succeeds_iff p]
  exact succeeds_bind_iff_left fun _ _ => succeeds_pure _

/-- The service of a checked module is described if its draft is. -/
theorem ServiceDescription.succeeds_ofModule_iff (checked : p.IsChecked) {module : String} :
    Succeeds (ofModule p module) ↔ Succeeds (ServiceDraft.ofModule p module) := by
  refine succeeds_bind_iff_left fun draft drafted => ?_
  obtain ⟨_, _, -, -, result⟩ := ServiceDraft.build_of_ofModule checked drafted
  exact ⟨_, result⟩

namespace ModuleDescription

theorem succeeds_describeService_iff (checked : p.IsChecked) {module : String} {m : Module}
    (found : p.module? module = some m) :
    Succeeds (describeService p module m) ↔
      (∀ e ∈ m.endpointList, ∀ a ∈ e.2.argumentList, a.1 ≠ credentialsArgument) ∧
        ∀ r ∈ m.endpointList.flatMap fun e => e.2.references, p.Converts r := by
  rw [describeService]
  by_cases empty : (OrderedMap.entriesOf m.endpoints).isEmpty = true
  · rw [if_pos empty, Module.endpointList_eq_nil empty]
    exact iff_of_true (succeeds_pure _) (by simp)
  · rw [if_neg empty, succeeds_map_iff, ServiceDescription.succeeds_ofModule_iff checked,
      ServiceDraft.succeeds_ofModule_iff, found]
    simp only [Option.some.injEq, exists_eq_left']

theorem succeeds_ofModule_iff (checked : p.IsChecked) {module : String} :
    Succeeds (ofModule p module) ↔
      ∃ m, p.module? module = some m ∧
        (∀ e ∈ m.endpointList, ∀ a ∈ e.2.argumentList, a.1 ≠ credentialsArgument) ∧
        ∀ r ∈ Go.typeReferences m, p.Converts r := by
  rw [ofModule, Project.succeeds_getModule_bind_iff]
  refine exists_congr fun m => and_congr_right fun found => ?_
  have service := succeeds_describeService_iff checked found
  have types := (reads_describeTypes module m).succeeds_iff p
  have errors := (reads_describeErrors module m).succeeds_iff p
  rw [true_and] at types errors
  rw [Go.typeReferences_eq, List.forall_mem_append, List.forall_mem_append, ← types, ← errors,
    and_left_comm, ← service, and_assoc]
  exact succeeds_bind_iff fun _ _ => succeeds_bind_iff fun _ _ =>
    succeeds_bind_iff_left fun _ _ => succeeds_pure _

end ModuleDescription

/-! ## The whole project -/

namespace Project

/-- Every type that the project refers to converts. -/
def IsResolved (p : Project) : Prop :=
  ∀ m ∈ p.moduleList, ∀ r ∈ Go.typeReferences m.2,
    Succeeds ((TypeRef.converter p m.1).convert r).result

/-- No argument of an endpoint has one of some names. -/
def AvoidsArguments (p : Project) (refused : String → Prop) : Prop :=
  ∀ m ∈ p.moduleList, ∀ e ∈ m.2.endpointList, ∀ a ∈ e.2.argumentList, ¬refused a.1

instance : Decidable p.IsResolved :=
  inferInstanceAs (Decidable (∀ m ∈ p.moduleList, ∀ r ∈ Go.typeReferences m.2,
    Succeeds ((TypeRef.converter p m.1).convert r).result))

instance (refused : String → Prop) [DecidablePred refused] :
    Decidable (p.AvoidsArguments refused) :=
  inferInstanceAs (Decidable (∀ m ∈ p.moduleList, ∀ e ∈ m.2.endpointList,
    ∀ a ∈ e.2.argumentList, ¬refused a.1))

theorem forall_module_iff {holds : Module → Prop} :
    (∀ name ∈ p.moduleNames, ∃ m, p.module? name = some m ∧ holds m) ↔
      ∀ m ∈ p.moduleList, holds m.2 := by
  simp only [module?_eq_some_iff]
  constructor
  · rintro all ⟨name, m⟩ mem
    obtain ⟨m', mem', held⟩ := all name (List.mem_map_of_mem mem)
    have same : p.module? name = some m := module?_eq_some_iff.mpr mem
    rw [module?_eq_some_iff.mpr mem'] at same
    cases same
    exact held
  · intro all name mem
    obtain ⟨⟨_, m⟩, inside, rfl⟩ := List.mem_map.mp mem
    exact ⟨m, inside, all _ inside⟩

theorem isResolved_iff :
    p.IsResolved ↔ ∀ m ∈ p.moduleList, ∀ r ∈ Go.typeReferences m.2, p.Converts r :=
  forall₂_congr fun _ _ => forall₂_congr fun r _ =>
    Converter.succeeds_convert_iff TypeRef.standard_templates r

theorem typeScript_accepts_iff (checked : p.IsChecked) (settings : TypeScript.Settings) :
    (∀ name ∈ p.moduleNames, Succeeds (TypeScript.renderModule p name settings)) ↔
      p.IsResolved := by
  simp only [TypeScript.succeeds_renderModule_iff]
  rw [forall_module_iff, isResolved_iff]
  exact forall₂_congr fun m mem =>
    and_iff_right (TypeScript.accepts_of_isValid (checked.isValid mem))

theorem discovery_accepts_iff (checked : p.IsChecked) :
    Succeeds (ModuleDescription.ofProject p) ↔
      p.IsResolved ∧ p.AvoidsArguments (· = credentialsArgument) := by
  rw [ModuleDescription.ofProject, succeeds_mapM_iff]
  simp only [succeeds_labelled_iff, ModuleDescription.succeeds_ofModule_iff checked]
  rw [forall_module_iff, isResolved_iff, and_comm]
  exact forall₂_and

theorem python_accepts_iff (checked : p.IsChecked) (indent : Nat) (source : String → String) :
    Succeeds (Python.renderFile p p.moduleNames indent source) ↔
      p.IsResolved ∧ p.AvoidsArguments (Python.collides · = true) := by
  rw [Python.succeeds_renderFile_iff, forall_module_iff, isResolved_iff, and_comm,
    AvoidsArguments, ← forall₂_and]
  refine forall₂_congr fun m mem => and_congr_left fun _ => ?_
  simp only [Python.accepts_iff_of_isValid (checked.isValid mem), Bool.not_eq_true]

/-- A checked project is accepted by the TypeScript target exactly if all its references
convert; by the description exactly if also no argument has the name of credentials; and by
the Python target exactly if also no argument has a name that collides, which the name of
credentials does. What can be drafted of a service is always built. -/
theorem accepts_exact (checked : p.IsChecked) :
    (∀ settings, (∀ name ∈ p.moduleNames, Succeeds (TypeScript.renderModule p name settings)) ↔
      p.IsResolved) ∧
    (Succeeds (ModuleDescription.ofProject p) ↔
      p.IsResolved ∧ p.AvoidsArguments (· = "auth")) ∧
    (∀ indent source, Succeeds (Python.renderFile p p.moduleNames indent source) ↔
      p.IsResolved ∧ p.AvoidsArguments (Python.collides · = true)) ∧
    (∀ indent source, Succeeds (Python.renderFile p p.moduleNames indent source) →
      Succeeds (ModuleDescription.ofProject p)) ∧
    (Succeeds (ModuleDescription.ofProject p) → ∀ settings, ∀ name ∈ p.moduleNames,
      Succeeds (TypeScript.renderModule p name settings)) ∧
    ∀ module, (∀ draft, ServiceDraft.ofModule p module = .ok draft → Succeeds draft.build) ∧
      ∀ e, ServiceDescription.ofModule p module = .error e →
        ServiceDraft.ofModule p module = .error e := by
  have built (module : String) (draft : ServiceDraft)
      (drafted : ServiceDraft.ofModule p module = .ok draft) : Succeeds draft.build := by
    obtain ⟨_, _, -, -, result⟩ := ServiceDraft.build_of_ofModule checked drafted
    exact ⟨_, result⟩
  refine ⟨typeScript_accepts_iff checked, discovery_accepts_iff checked,
    python_accepts_iff checked, fun indent source rendered => ?_, fun described settings => ?_,
    fun module => ⟨built module, fun e failed => ?_⟩⟩
  · obtain ⟨resolved, avoids⟩ := (python_accepts_iff checked indent source).mp rendered
    refine (discovery_accepts_iff checked).mpr ⟨resolved, fun m mem e inside a argument name => ?_⟩
    refine avoids m mem e inside a argument ?_
    rw [name]
    decide
  · exact (typeScript_accepts_iff checked settings).mpr
      ((discovery_accepts_iff checked).mp described).1
  · rw [ServiceDescription.ofModule] at failed
    cases drafted : ServiceDraft.ofModule p module with
    | error other =>
        rw [drafted] at failed
        exact congrArg _ (Except.error.inj failed)
    | ok draft =>
        obtain ⟨service, result⟩ := built module draft drafted
        rw [drafted] at failed
        exact nomatch result.symm.trans failed

/-- The Python target alone refuses an argument with the name of a builtin function. -/
theorem accepts_exact_todo :
    todo.IsChecked ∧
      (∀ settings, ∀ name ∈ todo.moduleNames,
        Succeeds (TypeScript.renderModule todo name settings)) ∧
      Succeeds (ModuleDescription.ofProject todo) ∧
      ∀ indent source, ¬Succeeds (Python.renderFile todo todo.moduleNames indent source) := by
  obtain ⟨typeScript, discovery, python, -⟩ := accepts_exact isChecked_todo
  have resolved : todo.IsResolved := by decide +kernel
  refine ⟨isChecked_todo, fun settings => (typeScript settings).mpr resolved,
    discovery.mpr ⟨resolved, by decide +kernel⟩, fun indent source rendered => ?_⟩
  have refused : ¬todo.AvoidsArguments (Python.collides · = true) := by decide +kernel
  exact refused ((python indent source).mp rendered).2

end Project

end ApiCompiler
