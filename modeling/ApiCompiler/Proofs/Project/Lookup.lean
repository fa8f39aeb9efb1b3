import ApiCompiler.Describe.Module
import ApiCompiler.Proofs.Fallible

/-!
# Looking up modules and types

Modules are found by name, and types in the first module that declares them.
-/

namespace ApiCompiler.Project

open Fallible

variable {p : Project} {name : String}

theorem module?_eq_some_iff {m : Module} : p.module? name = some m ↔ (name, m) ∈ p.moduleList :=
  OrderedMap.get?_eq_some_iff

theorem module?_eq_none_iff : p.module? name = none ↔ name ∉ p.moduleNames :=
  OrderedMap.get?_eq_none_iff

theorem mem_moduleNames_iff : name ∈ p.moduleNames ↔ ∃ m, p.module? name = some m := by
  rw [← Option.isSome_iff_exists, Option.isSome_iff_ne_none, ne_eq, module?_eq_none_iff,
    Decidable.not_not]

theorem getModule_eq_ok_iff {m : Module} :
    p.getModule name = .ok m ↔ p.module? name = some m := by
  rw [getModule]
  cases p.module? name with
  | none => simp
  | some m => simp

/-- A computation on the module of a name succeeds exactly if there is such a module and it
succeeds there. -/
theorem succeeds_getModule_bind_iff {α : Type} {f : Module → Except Error α} :
    Succeeds (p.getModule name >>= f) ↔ ∃ m, p.module? name = some m ∧ Succeeds (f m) := by
  rw [getModule]
  cases p.module? name with
  | none => exact iff_of_false (not_succeeds_error _) fun ⟨_, found, _⟩ => nomatch found
  | some m =>
      constructor
      · exact fun done => ⟨m, rfl, done⟩
      · rintro ⟨_, found, done⟩
        cases found
        exact done

theorem typeName_of_findType {loc : TypeLocator} (found : p.findType name = some loc) :
    loc.typeName = name := by
  obtain ⟨entry, -, rfl⟩ := Option.map_eq_some_iff.mp found
  rfl

/-- The owner of a located type is a module of the project. -/
theorem moduleName_mem_of_findType {loc : TypeLocator} (found : p.findType name = some loc) :
    loc.moduleName ∈ p.moduleNames := by
  obtain ⟨⟨key, m⟩, first, rfl⟩ := Option.map_eq_some_iff.mp found
  exact List.mem_map_of_mem (List.mem_of_find?_eq_some first)

end ApiCompiler.Project
