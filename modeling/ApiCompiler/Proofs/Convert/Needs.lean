import ApiCompiler.Proofs.Convert.Footprint
import ApiCompiler.Proofs.Convert.Recording
import ApiCompiler.Proofs.Module.Valid
import Mathlib.Data.List.Nodup

/-!
# What the targets import

A target reads off its templates which imports a builtin type needs. `Demands` lists
them. Whatever the order of the conversions, a file then imports what the types that
occur in them demand, and nothing else.
-/

namespace ApiCompiler

open Fallible

variable {T : Type} {among : Import → Prop}

/-- What a target imports for types: the imports of builtin types, and the symbols that are
imported with the name of a custom type. -/
structure Demands where
  builtin : List (String × Import)
  derived : String → List String

/-! ## Tables -/

namespace Templates

theorem Standard.nodup_names {t : Templates} (standard : t.Standard) :
    (t.entries.map (·.1)).Nodup := by
  have names : t.entries.map (·.1) = builtinArities.map (·.1) := by
    rw [← standard, List.map_map]
    rfl
  rw [names]
  decide

theorem get?_eq_some_iff {t : Templates} (unique : (t.entries.map (·.1)).Nodup)
    {name template : String} : t.get? name = some template ↔ (name, template) ∈ t.entries := by
  rw [get?, Option.map_eq_some_iff]
  constructor
  · rintro ⟨⟨key, _⟩, found, rfl⟩
    obtain rfl : key = name := by simpa using List.find?_some found
    exact List.mem_of_find?_eq_some found
  · intro mem
    have present : (t.entries.find? (·.1 == name)).isSome := by
      rw [List.find?_isSome]
      exact ⟨_, mem, beq_self_eq_true name⟩
    obtain ⟨e, found⟩ := Option.isSome_iff_exists.mp present
    have same : e.1 = name := by simpa using List.find?_some found
    have only := List.inj_on_of_nodup_map unique (List.mem_of_find?_eq_some found) mem same
    exact ⟨e, found, congrArg Prod.snd only⟩

/-- The imports that are read off templates. -/
def demanded (t : Templates) (need : String → Option Import) : List (String × Import) :=
  t.entries.filterMap fun e => (need e.2).map (e.1, ·)

theorem mem_demanded_iff {t : Templates} (standard : t.Standard) {need : String → Option Import}
    {name : String} {i : Import} :
    (name, i) ∈ t.demanded need ↔ (t.get? name).bind need = some i := by
  simp only [demanded, List.mem_filterMap, Option.bind_eq_some_iff, Option.map_eq_some_iff,
    get?_eq_some_iff standard.nodup_names]
  constructor
  · rintro ⟨⟨key, template⟩, mem, _, needed, same⟩
    cases same
    exact ⟨template, mem, needed⟩
  · rintro ⟨template, mem, needed⟩
    exact ⟨(name, template), mem, i, needed, rfl⟩

theorem builtinArity?_eq_none_iff {name : String} :
    builtinArity? name = none ↔ name ∉ builtins := by
  have names : builtins = builtinArities.map (·.1) := by decide
  rw [builtinArity?, Option.map_eq_none_iff, List.find?_eq_none, names, List.mem_map, not_exists]
  simp only [beq_iff_eq, not_and]

end Templates

/-! ## One type -/

namespace Converter

variable {c : Converter T} {v : Visit T}

theorem Shows.get?_eq_none (shown : c.Shows v) {loc : TypeLocator}
    (located : v.locator = some loc) : c.backend.templates.get? v.datatype.name = none := by
  rw [shown.locator] at located
  exact (locate_eq_some_iff.mp located).1

theorem Shows.rendered (shown : c.Shows v) {loc : TypeLocator} (located : v.locator = some loc) :
    v.rendered = c.backend.reference loc := by
  obtain ⟨values, view⟩ := id shown
  rw [Converter.view, shown.get?_eq_none located] at view
  obtain ⟨loc', -, same⟩ := Option.map_eq_some_iff.mp view
  rw [← same] at located ⊢
  cases located
  rfl

/-- A visitor that records what is read off the template of a builtin type. -/
theorem grows_template (standard : c.backend.templates.Standard) {read : String → Option String}
    {record : Imports → String → Imports} {entry : String → Import}
    (recorded : ∀ (im : Imports) x, im.Grows among (record im x) (· = entry x))
    (name : String) (im : Imports) :
    im.Grows among
      (match (c.backend.templates.get? name).bind read with
        | some x => record im x
        | none => im)
      fun i => (name, i) ∈ c.backend.templates.demanded (Option.map entry ∘ read) := by
  have listed (i : Import) :
      (name, i) ∈ c.backend.templates.demanded (Option.map entry ∘ read) ↔
        ∃ x, (c.backend.templates.get? name).bind read = some x ∧ entry x = i := by
    rw [Templates.mem_demanded_iff standard, ← Option.map_bind, Option.map_eq_some_iff]
  cases found : (c.backend.templates.get? name).bind read with
  | none => exact (Imports.Grows.refl im).of_iff fun i _ => by simp [listed, found]
  | some x => exact (recorded im x).of_iff fun i _ => by simp [listed, found, eq_comm]

/-- Nothing is read off a template for a custom type. -/
theorem Shows.not_mem_demanded (shown : c.Shows v) (standard : c.backend.templates.Standard)
    {loc : TypeLocator} (located : v.locator = some loc) {need : String → Option Import}
    {i : Import} : (v.datatype.name, i) ∉ c.backend.templates.demanded need := by
  rw [Templates.mem_demanded_iff standard, shown.get?_eq_none located]
  exact nofun

/-- What a type of a reference demands of a target, besides the name of a custom type. -/
def Demanded (c : Converter T) (demands : Demands) (node : Datatype) (i : Import) : Prop :=
  (node.name, i) ∈ demands.builtin ∨ ∃ loc symbol, c.locate node = some loc ∧
    symbol ∈ demands.derived loc.typeName ∧ i = .symbol (c.source loc.moduleName) symbol

/-- A visitor records what the types that it is shown demand. -/
def Supplies (c : Converter T) (also : Imports → Visit T → Imports) (demands : Demands) : Prop :=
  ∀ v, c.Shows v → ∀ im : Imports,
    im.Grows (fun _ => True) (also im v) (c.Demanded demands v.datatype)

/-- It is enough to read the demands of builtin types off the templates, and to record the symbols
that are derived from custom types. -/
theorem Supplies.of_templates {also : Imports → Visit T → Imports} {demands : Demands}
    {read : String → Option String} {record : Imports → String → Imports}
    {entry : String → Import} (standard : c.backend.templates.Standard)
    (table : c.backend.templates.demanded (Option.map entry ∘ read) = demands.builtin)
    (recorded : ∀ (im : Imports) x, im.Grows (fun _ => True) (record im x) (· = entry x))
    (builtin : ∀ im v, v.locator = none → also im v =
      match (c.backend.templates.get? v.datatype.name).bind read with
      | some x => record im x
      | none => im)
    (custom : ∀ v loc, c.Shows v → v.locator = some loc → ∀ im : Imports,
      im.Grows (fun _ => True) (also im v) fun i => ∃ symbol ∈ demands.derived loc.typeName,
        i = .symbol (c.source loc.moduleName) symbol) :
    c.Supplies also demands := by
  intro v shown im
  have located := shown.locator
  cases kind : v.locator with
  | none =>
      rw [kind] at located
      rw [builtin im v kind]
      refine (grows_template standard recorded v.datatype.name im).of_iff fun i _ => ?_
      rw [table, Demanded, ← located]
      simp
  | some loc =>
      rw [kind] at located
      refine (custom v loc shown kind im).of_iff fun i _ => ?_
      have unlisted : (v.datatype.name, i) ∉ demands.builtin := by
        rw [← table]
        exact shown.not_mem_demanded standard kind
      simp [Demanded, unlisted, ← located]

/-- Custom types may be ignored if no symbols are derived from them. -/
theorem Supplies.of_builtins {also : Imports → Visit T → Imports} {demands : Demands}
    {read : String → Option String} {record : Imports → String → Imports}
    {entry : String → Import} (standard : c.backend.templates.Standard)
    (table : c.backend.templates.demanded (Option.map entry ∘ read) = demands.builtin)
    (recorded : ∀ (im : Imports) x, im.Grows (fun _ => True) (record im x) (· = entry x))
    (plain : ∀ name, demands.derived name = [])
    (also_eq : ∀ im v, also im v =
      match v.locator with
      | some _ => im
      | none =>
        match (c.backend.templates.get? v.datatype.name).bind read with
        | some x => record im x
        | none => im) :
    c.Supplies also demands := by
  refine of_templates standard table recorded (fun im v kind => ?_) fun v loc _ kind im => ?_
  · rw [also_eq, kind]
  · rw [also_eq, kind]
    exact (Imports.Grows.refl im).of_iff fun i _ => by simp [plain]

/-- Recording nothing is enough where nothing is demanded. -/
theorem Supplies.nothing : c.Supplies (fun im _ => im) ⟨[], fun _ => []⟩ :=
  fun v _ im => (Imports.Grows.refl im).of_iff fun i _ => by simp [Demanded]

end Converter

/-! ## The targets -/

/-- Hints need the modules of the types that are no classes of the language. -/
def Python.demands : Demands where
  builtin := [("any", .module "typing"), ("datetime", .module "datetime"),
    ("decimal", .module "decimal"), ("list", .module "typing"), ("set", .module "typing"),
    ("map", .module "typing"), ("optional", .module "typing")]
  derived _ := []

theorem Python.demanded_templates :
    templates.demanded (Option.map .module ∘ templateModule?) = demands.builtin := by decide

def Go.demands : Demands where
  builtin := [("datetime", .module "time"), ("decimal", .module "math/big")]
  derived _ := []

theorem Go.demanded_typeTemplates :
    typeTemplates.demanded (Option.map .module ∘ templatePackage?) = demands.builtin := by decide

namespace TypeScript

def typeDemands : Demands where
  builtin := [("integer", .symbol runtimeModule "Integer"),
    ("double", .symbol runtimeModule "Double"), ("decimal", .symbol runtimeModule "Decimal")]
  derived _ := []

/-- A description needs a class for every builtin type, and a constant for every custom one. -/
def descriptorDemands : Demands where
  builtin := [
    ("any", .symbol runtimeModule "AnyType"), ("string", .symbol runtimeModule "StringType"),
    ("integer", .symbol runtimeModule "IntegerType"),
    ("double", .symbol runtimeModule "DoubleType"),
    ("boolean", .symbol runtimeModule "BooleanType"),
    ("datetime", .symbol runtimeModule "DatetimeType"),
    ("decimal", .symbol runtimeModule "DecimalType"), ("list", .symbol runtimeModule "ListType"),
    ("set", .symbol runtimeModule "SetType"), ("map", .symbol runtimeModule "MapType"),
    ("optional", .symbol runtimeModule "OptionalType")]
  derived name := [name ++ "_TYPE"]

theorem demanded_typeTemplates :
    typeTemplates.demanded (Option.map (.of runtimeModule) ∘ Text.dropStart? runtimeMark) =
      typeDemands.builtin := by decide

theorem demanded_descriptorTemplates :
    descriptorTemplates.demanded (Option.map (.of runtimeModule) ∘ constructedClass?) =
      descriptorDemands.builtin := by decide

end TypeScript

section Targets

variable {p : Project} {current : String} {source : String → String}

theorem Python.supplies_needsOf :
    Converter.Supplies ⟨p, current, backend, source⟩ needsOf demands :=
  .of_builtins standard_templates demanded_templates Imports.grows_addModule
    (fun _ => rfl) fun _ _ => rfl

theorem Go.supplies_typeNeeds :
    Converter.Supplies ⟨p, current, typeBackend current, source⟩ typeNeeds demands :=
  .of_builtins standard_typeTemplates demanded_typeTemplates Imports.grows_addModule
    (fun _ => rfl) fun _ _ => rfl

theorem TypeScript.supplies_typeNeeds :
    Converter.Supplies ⟨p, current, typeBackend, source⟩ typeNeeds typeDemands :=
  .of_builtins standard_typeTemplates demanded_typeTemplates
    (fun im => im.grows_add runtimeModule) (fun _ => rfl) fun _ _ => rfl

theorem TypeScript.supplies_descriptorNeeds :
    Converter.Supplies ⟨p, current, descriptorBackend, source⟩ (descriptorNeeds source)
      descriptorDemands := by
  refine .of_templates standard_descriptorTemplates demanded_descriptorTemplates
    (fun im => im.grows_add runtimeModule) (fun im v custom => ?_) fun v loc shown custom im => ?_
  · rw [descriptorNeeds, custom]
    rfl
  · have rendered : v.rendered = loc.typeName ++ "_TYPE" := shown.rendered custom
    have named : loc.typeName ++ "_TYPE" ≠ "" := by simp
    rw [descriptorNeeds, custom, rendered]
    refine (im.grows_add (source loc.moduleName) (loc.typeName ++ "_TYPE")).of_iff fun i _ => ?_
    rw [Import.of_eq_symbol named]
    simp [descriptorDemands]

end Targets

/-! ## Sequences of conversions -/

/-- A type occurs in some references, on any level. -/
def Datatype.Occurs (references : List String) (name : String) : Prop :=
  ∃ r ∈ references, ∃ d, Datatype.parse r = .ok d ∧ ∃ node ∈ d.nodes, node.name = name

namespace Converter

variable {c : Converter T} {also : Imports → Visit T → Imports} {demands : Demands}
variable {references : List String} {i : Import}

/-- What the types that occur in references require: the imports of the builtin types, and the
symbols of the custom types from the modules in which the project finds them. -/
inductive Requires (c : Converter T) (demands : Demands) (references : List String) : Import → Prop
  | builtin {type : String} {i : Import} (listed : (type, i) ∈ demands.builtin)
      (occurs : Datatype.Occurs references type) : Requires c demands references i
  | custom {name symbol : String} {loc : TypeLocator} (occurs : Datatype.Occurs references name)
      (free : name ∉ Templates.builtins) (found : c.project.findType name = some loc)
      (named : symbol ∈ name :: demands.derived name) :
      Requires c demands references (.symbol (c.source loc.moduleName) symbol)

/-- The imports after conversions of references, one after the other. -/
def importsAfter (c : Converter T) (also : Imports → Visit T → Imports)
    (references : List String) : Imports :=
  references.foldl (c.collect also) c.noImports

theorem locate_eq_some_iff_builtins (standard : c.backend.templates.Standard) {node : Datatype}
    {loc : TypeLocator} : c.locate node = some loc ↔
      node.name ∉ Templates.builtins ∧ c.project.findType node.name = some loc := by
  rw [locate_eq_some_iff, ← Templates.builtinArity?_eq_none_iff, ← standard.map_get?,
    Option.map_eq_none_iff]

theorem requires_iff (standard : c.backend.templates.Standard) :
    (∃ r ∈ references, Datatype.Wants
        (fun node i => c.Provides node i ∨ c.Demanded demands node i) r i) ↔
      c.Requires demands references i := by
  constructor
  · rintro ⟨r, mem, d, read, node, below, needed⟩
    have occurs : Datatype.Occurs references node.name := ⟨r, mem, d, read, node, below, rfl⟩
    have chosen {loc : TypeLocator} (located : c.locate node = some loc) {symbol : String}
        (named : symbol ∈ loc.typeName :: demands.derived loc.typeName) :
        c.Requires demands references (.symbol (c.source loc.moduleName) symbol) := by
      obtain ⟨free, found⟩ := (locate_eq_some_iff_builtins standard).mp located
      rw [Project.typeName_of_findType found] at named
      exact .custom occurs free found named
    rcases needed with ⟨loc, located, rfl⟩ | listed | ⟨loc, symbol, located, derived, rfl⟩
    · exact chosen located List.mem_cons_self
    · exact .builtin listed occurs
    · exact chosen located (List.mem_cons_of_mem _ derived)
  · intro required
    cases required with
    | builtin listed occurs =>
        obtain ⟨r, mem, d, read, node, below, rfl⟩ := occurs
        exact ⟨r, mem, d, read, node, below, .inr (.inl listed)⟩
    | @custom name symbol loc occurs free found named =>
        obtain ⟨r, mem, d, read, node, below, rfl⟩ := occurs
        have located := (locate_eq_some_iff_builtins standard).mpr ⟨free, found⟩
        rw [← Project.typeName_of_findType found] at named
        refine ⟨r, mem, d, read, node, below, ?_⟩
        rcases List.mem_cons.mp named with rfl | derived
        · exact .inl ⟨loc, located, rfl⟩
        · exact .inr (.inr ⟨loc, symbol, located, derived, rfl⟩)

theorem Requires.mono {more : List String} (required : c.Requires demands references i)
    (included : ∀ r ∈ references, r ∈ more) : c.Requires demands more i := by
  have occurs {name : String} : Datatype.Occurs references name → Datatype.Occurs more name := by
    rintro ⟨r, mem, found⟩
    exact ⟨r, included r mem, found⟩
  cases required with
  | builtin listed here => exact .builtin listed (occurs here)
  | custom here free found chosen => exact .custom (occurs here) free found chosen

theorem Requires.source_ne_empty (required : c.Requires demands references i)
    (fixed : ∀ e ∈ demands.builtin, e.2.source ≠ "") (named : ∀ m, c.source m ≠ "") :
    i.source ≠ "" := by
  cases required with
  | builtin listed occurs => exact fixed _ listed
  | custom occurs free found chosen => exact named _

theorem isElided_noImports (named : ∀ m, c.source m ≠ "") (source : String) :
    c.noImports.isElided source = false ↔ source ≠ "" ∧ source ≠ c.source c.current := by
  simp [Imports.isElided, noImports, Imports.new, named]

/-- After conversions that succeed a file imports what the types that occurred require. -/
theorem holds_importsAfter_iff (standard : c.backend.templates.Standard)
    (supplies : c.Supplies also demands) (fixed : ∀ e ∈ demands.builtin, e.2.source ≠ "")
    (named : ∀ m, c.source m ≠ "") (legal : ∀ r ∈ references, Succeeds (c.convert r).result) :
    (c.importsAfter also references).Holds i ↔
      i.source ≠ c.source c.current ∧ c.Requires demands references i := by
  have grows := Imports.Grows.foldl (fun r mem => grows_collect supplies (legal r mem)) c.noImports
  have nothing : ¬c.noImports.Holds i := by
    cases i with
    | module source => exact nofun
    | symbol source name => exact nofun
  rw [importsAfter, grows.holds_iff i trivial, requires_iff standard, isElided_noImports named]
  constructor
  · rintro (before | ⟨⟨-, foreign⟩, required⟩)
    · exact absurd before nothing
    · exact ⟨foreign, required⟩
  · rintro ⟨foreign, required⟩
    exact .inr ⟨⟨required.source_ne_empty fixed named, foreign⟩, required⟩

/-- Conversions in any order and any number leave behind what the types that occurred require. -/
def Collects (c : Converter T) (also : Imports → Visit T → Imports) (demands : Demands) : Prop :=
  ∀ references order : List String, (∀ r ∈ references, Succeeds (c.convert r).result) →
    (∀ r, r ∈ order ↔ r ∈ references) → ∀ i, (c.importsAfter also order).Holds i ↔
      i.source ≠ c.source c.current ∧ c.Requires demands references i

theorem Supplies.collects (supplies : c.Supplies also demands)
    (standard : c.backend.templates.Standard) (fixed : ∀ e ∈ demands.builtin, e.2.source ≠ "")
    (named : ∀ m, c.source m ≠ "") : c.Collects also demands := by
  intro references order legal members i
  have legal' : ∀ r ∈ order, Succeeds (c.convert r).result :=
    fun r mem => legal r ((members r).mp mem)
  rw [holds_importsAfter_iff standard supplies fixed named legal']
  refine and_congr_right fun _ => ⟨fun required => ?_, fun required => ?_⟩
  · exact required.mono fun r => (members r).mp
  · exact required.mono fun r => (members r).mpr

/-- Code that is emitted for references has the imports of their conversions. -/
theorem exists_mapM_convert {c : Converter String} {also : Imports → Visit String → Imports}
    (legal : ∀ r ∈ references, Succeeds (c.convert r).result) (im : Imports) :
    ∃ texts, references.mapM (Emit.convert c also) im =
      .ok (texts, references.foldl (c.collect also) im) := by
  induction references generalizing im with
  | nil => exact ⟨[], rfl⟩
  | cons r rest ih =>
      rw [List.forall_mem_cons] at legal
      obtain ⟨⟨text, converted⟩, legal⟩ := legal
      obtain ⟨texts, emitted⟩ := ih legal (c.collect also im r)
      have first : Emit.convert c also r im = .ok (text, c.collect also im r) := by
        rw [Emit.convert, converted]
        rfl
      refine ⟨text :: texts, ?_⟩
      rw [List.mapM_cons]
      refine bind_eq_ok_iff.mpr ⟨_, first, ?_⟩
      exact bind_eq_ok_iff.mpr ⟨_, emitted, rfl⟩

/-- Whatever a project is and from wherever its modules are imported, as long as every source has
a name: after conversions that succeed, in any order and with repetitions, each target has
recorded what the types that occurred require and nothing else, except what would come from the
file itself. Python needs the modules of its hints, Go two packages, and TypeScript symbols of the
runtime; the constants that describe custom types come with the types. Emitted code imports just
that. -/
theorem imports_exact (p : Project) (current : String) (source : String → String)
    (named : ∀ m, source m ≠ "") :
    Collects ⟨p, current, Python.backend, source⟩ Python.needsOf Python.demands ∧
      Collects ⟨p, current, Go.typeBackend current, source⟩ Go.typeNeeds Go.demands ∧
      Collects ⟨p, current, TypeScript.typeBackend, source⟩ TypeScript.typeNeeds
        TypeScript.typeDemands ∧
      Collects ⟨p, current, TypeScript.descriptorBackend, source⟩
        (TypeScript.descriptorNeeds source) TypeScript.descriptorDemands ∧
      Collects ⟨p, current, Go.refBackend, source⟩ (fun im _ => im) ⟨[], fun _ => []⟩ ∧
      Collects ⟨p, current, TypeRef.backend, source⟩ (fun im _ => im) ⟨[], fun _ => []⟩ ∧
      ∀ (c : Converter String) (also : Imports → Visit String → Imports) (references : List String),
        (∀ r ∈ references, Succeeds (c.convert r).result) →
          ∃ texts, references.mapM (Emit.convert c also) c.noImports =
            .ok (texts, c.importsAfter also references) := by
  refine ⟨?_, ?_, ?_, ?_, ?_, ?_, fun c also references legal => ?_⟩
  · exact Python.supplies_needsOf.collects Python.standard_templates (by decide) named
  · exact Go.supplies_typeNeeds.collects Go.standard_typeTemplates (by decide) named
  · exact TypeScript.supplies_typeNeeds.collects TypeScript.standard_typeTemplates (by decide) named
  · exact TypeScript.supplies_descriptorNeeds.collects TypeScript.standard_descriptorTemplates
      (by decide) named
  · exact Supplies.nothing.collects Go.standard_refTemplates (List.forall_mem_nil _) named
  · exact Supplies.nothing.collects TypeRef.standard_templates (List.forall_mem_nil _) named
  · exact exists_mapM_convert legal c.noImports

theorem imports_exact_todo :
    (∀ m, TypeScript.importSource m ≠ "") ∧
      ∀ i, (importsAfter ⟨.todo, "todo", TypeScript.descriptorBackend, TypeScript.importSource⟩
          (TypeScript.descriptorNeeds TypeScript.importSource) ["optional[Page]", "Item"]).Holds i ↔
        i.source ≠ "./todo" ∧ Requires
          ⟨.todo, "todo", TypeScript.descriptorBackend, TypeScript.importSource⟩
          TypeScript.descriptorDemands ["Item", "optional[Page]", "Item"] i := by
  have named (m : String) : TypeScript.importSource m ≠ "" := by
    simp [TypeScript.importSource]
  have legal : ∀ r ∈ ["Item", "optional[Page]", "Item"],
      (failure? (convert ⟨.todo, "todo", TypeScript.descriptorBackend, TypeScript.importSource⟩
        r).result).isNone = true := by decide +kernel
  obtain ⟨-, -, -, descriptors, -⟩ := imports_exact .todo "todo" TypeScript.importSource named
  refine ⟨named, descriptors _ _ (fun r mem => ?_) (by simp)⟩
  exact failure?_eq_none_iff.mp (Option.isNone_iff_eq_none.mp (legal r mem))

end Converter

end ApiCompiler
