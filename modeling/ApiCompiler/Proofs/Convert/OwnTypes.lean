import ApiCompiler.Proofs.Convert.Needs

/-!
# Types of the file itself

A name is looked up in the modules in their order, whichever module the file belongs to.
So a type that the module of the file declares is imported exactly if a module before it
declares a type of the same name.
-/

namespace ApiCompiler

open Fallible

namespace Project

variable {p : Project} {current name : String}

/-- A module declares a type. -/
def Declares (p : Project) (module name : String) : Prop :=
  ∃ m, p.module? module = some m ∧ m.hasType name = true

/-- A module before the one of the file declares a type with the same name. -/
def Shadows (p : Project) (current name : String) : Prop :=
  ∃ before m after, p.moduleList = before ++ (current, m) :: after ∧
    ∃ other ∈ before, other.2.hasType name = true

/-- The own type of a module is found elsewhere exactly if it is shadowed. -/
theorem exists_findType_foreign_iff (own : p.Declares current name) :
    (∃ loc, p.findType name = some loc ∧ loc.moduleName ≠ current) ↔ p.Shadows current name := by
  obtain ⟨m, known, declared⟩ := own
  have mem := module?_eq_some_iff.mp known
  constructor
  · rintro ⟨loc, found, foreign⟩
    obtain ⟨⟨owner, first⟩, search, rfl⟩ := Option.map_eq_some_iff.mp found
    obtain ⟨here, before, after, split, others⟩ := List.find?_eq_some_iff_append.mp search
    -- the own module is neither before the first one nor the first one itself
    have later : (current, m) ∈ after := by
      rw [split, List.mem_append, List.mem_cons] at mem
      rcases mem with earlier | same | later
      · have missing : (!m.hasType name) = true := others _ earlier
        rw [declared] at missing
        exact nomatch missing
      · cases same
        exact absurd rfl foreign
      · exact later
    obtain ⟨between, rest, rfl⟩ := List.append_of_mem later
    refine ⟨before ++ (owner, first) :: between, m, rest, ?_, (owner, first), ?_, here⟩
    · rw [split, List.append_assoc, List.cons_append]
    · exact List.mem_append_right before List.mem_cons_self
  · rintro ⟨before, m', after, split, other, earlier, hides⟩
    have present : (before.find? fun e => e.2.hasType name).isSome := by
      rw [List.find?_isSome]
      exact ⟨other, earlier, hides⟩
    obtain ⟨⟨owner, first⟩, search⟩ := Option.isSome_iff_exists.mp present
    have found : p.findType name = some ⟨owner, first, name⟩ := by
      rw [findType, split, List.find?_append, search]
      rfl
    refine ⟨_, found, ?_⟩
    rintro rfl
    -- no name stands twice in a project
    have distinct := p.modules.nodup_keys
    change (p.moduleList.map (·.1)).Nodup at distinct
    rw [split, List.map_append, List.nodup_append] at distinct
    have twice := List.mem_map_of_mem (f := (·.1)) (List.mem_of_find?_eq_some search)
    exact distinct.2.2 _ twice _ List.mem_cons_self rfl

end Project

namespace Converter

variable {T : Type} {c : Converter T} {name : String}

/-- Without anything besides, a conversion records the custom types that it met, also if it
fails. -/
theorem grows_collect_types {among : Import → Prop} (reference : String) (im : Imports) :
    im.Grows among (c.collect (fun im _ => im) im reference) fun i =>
      ∃ v ∈ (c.convert reference).visits, c.Provides v.datatype i := by
  have besides : ∀ v ∈ (c.convert reference).visits, ∀ im : Imports,
      im.Grows among im fun _ => False := fun v _ im => .refl im
  refine ((grows_recordImports reference im).trans (.foldl besides _)).of_iff fun i _ => ?_
  simp

/-- Nothing is imported from the file's own source. -/
theorem isElided_own (c : Converter T) : c.noImports.isElided (c.source c.current) = true := by
  by_cases empty : c.source c.current = ""
  · simp [Imports.isElided, empty]
  · simp [Imports.isElided, noImports, Imports.new, empty]

/-- What is recorded under a name is a type of another module. -/
theorem exists_foreign_of_holds {references : List String} {source : String}
    (held : (c.importsAfter (fun im _ => im) references).Holds (.symbol source name)) :
    Datatype.IsName name ∧ c.backend.templates.get? name = none ∧
      ∃ loc, c.project.findType name = some loc ∧ loc.moduleName ≠ c.current := by
  have grows : c.noImports.Grows (fun _ => True) (c.importsAfter (fun im _ => im) references)
      fun i => ∃ r ∈ references, ∃ v ∈ (c.convert r).visits, c.Provides v.datatype i :=
    .foldl (fun r _ => grows_collect_types r) c.noImports
  rcases (grows.holds_iff _ trivial).mp held with before | ⟨kept, r, -, v, met, loc, located, same⟩
  · exact nomatch before
  · cases same
    obtain ⟨custom, found⟩ := locate_eq_some_iff.mp located
    rw [Project.typeName_of_findType found]
    refine ⟨isName_of_mem_visits met, custom, loc, found, ?_⟩
    rintro own
    rw [Import.source, own, isElided_own] at kept
    exact nomatch kept

/-- A custom type of another module is recorded when its name is converted. -/
theorem holds_of_foreign (injective : c.source.Injective) (named : ∀ m, c.source m ≠ "")
    (isName : Datatype.IsName name) (custom : c.backend.templates.get? name = none)
    {loc : TypeLocator} (found : c.project.findType name = some loc)
    (foreign : loc.moduleName ≠ c.current) :
    (c.importsAfter (fun im _ => im) [name]).Holds (.symbol (c.source loc.moduleName) name) := by
  have read : Datatype.parse name = .ok (.mk name none) :=
    Datatype.parse_eq_ok_iff.mpr (.plain isName)
  have itself : ∀ node ∈ (Datatype.mk name none).nodes, node = .mk name none := by
    simp [Datatype.nodes_eq_cons, Datatype.nodesOf]
  have done : Succeeds (c.convert name).result := by
    refine succeeds_convert_iff_admits.mpr ⟨_, read, fun node mem => ?_⟩
    rw [itself node mem, Admits, Datatype.name_mk, custom]
    exact ⟨rfl, by rw [found]; rfl⟩
  have located : c.locate (.mk name none) = some loc := by
    rw [locate, Datatype.name_mk, custom]
    exact found
  have grows := grows_collect Supplies.nothing done c.noImports
  refine (grows.holds_iff _ trivial).mpr (.inr ⟨?_, .mk name none, read, ?_⟩)
  · exact (isElided_noImports named _).mpr ⟨named _, fun same => foreign (injective same)⟩
  · refine ⟨_, Datatype.self_mem_nodes _, .inl ⟨loc, located, ?_⟩⟩
    rw [TypeLocator.symbol, Project.typeName_of_findType found]

/-- A file imports no type that its own module declares, whatever references are converted,
exactly if no module before it declares a type with such a name. Only names that a reference can
have count, and no names of builtin types. -/
theorem own_types_kept_iff (c : Converter T) (injective : c.source.Injective)
    (named : ∀ m, c.source m ≠ "") :
    (∀ references source name, c.project.Declares c.current name →
        ¬(c.importsAfter (fun im _ => im) references).Holds (.symbol source name)) ↔
      ∀ name, c.project.Declares c.current name → Datatype.IsName name →
        c.backend.templates.get? name = none → ¬c.project.Shadows c.current name := by
  constructor
  · intro kept name own isName custom shadowed
    obtain ⟨loc, found, foreign⟩ := (Project.exists_findType_foreign_iff own).mpr shadowed
    exact kept [name] _ name own (holds_of_foreign injective named isName custom found foreign)
  · intro clear references source name own held
    obtain ⟨isName, custom, foreign⟩ := exists_foreign_of_holds held
    exact clear name own isName custom ((Project.exists_findType_foreign_iff own).mp foreign)

theorem own_types_kept_todo :
    TypeScript.importSource.Injective ∧ (∀ m, TypeScript.importSource m ≠ "") ∧
      ∀ references source name, Project.todo.Declares "todo" name →
        ¬(importsAfter ⟨.todo, "todo", TypeRef.backend, TypeScript.importSource⟩ (fun im _ => im)
          references).Holds (.symbol source name) := by
  have injective : TypeScript.importSource.Injective := fun a b same => by
    simpa [TypeScript.importSource] using same
  have named (m : String) : TypeScript.importSource m ≠ "" := by
    simp [TypeScript.importSource]
  refine ⟨injective, named, (own_types_kept_iff ⟨.todo, "todo", TypeRef.backend,
    TypeScript.importSource⟩ injective named).mpr fun name own _ _ shadowed => ?_⟩
  obtain ⟨loc, found, foreign⟩ := (Project.exists_findType_foreign_iff own).mpr shadowed
  have only : "Item" = name := by
    obtain ⟨m, known, declared⟩ := own
    cases known
    simpa [Module.hasType, Module.todo, OrderedMap.contains, OrderedMap.get?, OrderedMap.find]
      using declared
  cases only
  cases found
  exact foreign rfl

end Converter

/-- A module with one type. -/
def Module.sharing : Module :=
  ⟨"Sharing", "", none, some ⟨[("Shared", some .empty)], by decide⟩, none, none⟩

/-- Two modules that declare a type with the same name. -/
def Project.overlapping : Project := ⟨⟨[("a", .sharing), ("b", .sharing)], by decide⟩⟩

theorem Converter.own_type_imported :
    Function.Injective (id : String → String) ∧ Project.overlapping.Declares "b" "Shared" ∧
      (importsAfter ⟨.overlapping, "b", TypeRef.backend, id⟩ (fun im _ => im) ["Shared"]).Holds
        (.symbol "a" "Shared") := by
  refine ⟨Function.injective_id, ⟨.sharing, rfl, by decide⟩, ?_⟩
  change ("a", "Shared") ∈ Imports.symbols _
  decide +kernel

end ApiCompiler
