import ApiCompiler.Proofs.Project.Faults

/-!
# What targets may rely on

Targets use declarations, tables of names and lists in step without asking whether they can.
Validation asks once: every name that a valid module declares has a definition, every table has
an entry for what is looked up in it, and a target reports nothing that validation would have
reported.
-/

namespace ApiCompiler

open Fallible

variable {p : Project} {m : Module}

/-! ## Definitions -/

/-- Every name that a module declares has a definition. -/
structure Module.IsDefined (m : Module) : Prop where
  types : ∀ t ∈ OrderedMap.entriesOf m.types, t.2.isSome = true
  errors : ∀ e ∈ OrderedMap.entriesOf m.errors, e.2.isSome = true
  endpoints : ∀ e ∈ OrderedMap.entriesOf m.endpoints, e.2.isSome = true
  arguments : ∀ e ∈ m.endpointList, ∀ a ∈ OrderedMap.entriesOf e.2.arguments, a.2.isSome = true

namespace Module

theorem isSome_of_checkAll {V : Type} {noun : String} {check : String → V → Except Error Unit}
    {declarations : Option (OrderedMap (Option V))}
    (checked : Succeeds (checkAll noun check declarations)) :
    ∀ d ∈ OrderedMap.entriesOf declarations, d.2.isSome = true := by
  rintro ⟨name, value⟩ mem
  have each := succeeds_forM_iff.mp checked _ mem
  cases value with
  | none => exact absurd each (not_succeeds_error _)
  | some v => rfl

theorem isSome_of_checkEndpoint {name : String} {e : Endpoint}
    (checked : Succeeds (checkEndpoint name e)) :
    ∀ a ∈ OrderedMap.entriesOf e.arguments, a.2.isSome = true := by
  obtain ⟨_, result⟩ := checked
  obtain ⟨_, -, rest⟩ := bind_eq_ok_iff.mp result
  obtain ⟨_, -, rest⟩ := bind_eq_ok_iff.mp rest
  obtain ⟨_, arguments, -⟩ := bind_eq_ok_iff.mp rest
  rintro ⟨argument, value⟩ mem
  have each := succeeds_forM_iff.mp ⟨_, arguments⟩ _ mem
  cases value with
  | none => exact absurd each (not_succeeds_error _)
  | some a => rfl

theorem isDefined_of_validate (valid : Succeeds m.validate) : m.IsDefined := by
  obtain ⟨_, result⟩ := valid
  obtain ⟨_, -, rest⟩ := bind_eq_ok_iff.mp result
  obtain ⟨_, types, rest⟩ := bind_eq_ok_iff.mp rest
  obtain ⟨_, errors, endpoints⟩ := bind_eq_ok_iff.mp rest
  constructor
  · exact isSome_of_checkAll ⟨_, types⟩
  · exact isSome_of_checkAll ⟨_, errors⟩
  · exact isSome_of_checkAll ⟨_, endpoints⟩
  · intro e mem
    exact isSome_of_checkEndpoint (succeeds_of_checkAll ⟨_, endpoints⟩ mem)

/-- What is declared among defined types is found. -/
theorem IsDefined.isSome_type? (defined : m.IsDefined) {name : String}
    (declared : m.hasType name = true) : (m.type? name).isSome = true := by
  obtain ⟨types, named, contained⟩ := (Option.any_eq_true _ _).mp declared
  obtain ⟨t, found⟩ := Option.isSome_iff_exists.mp contained
  have entry := OrderedMap.get?_eq_some_iff.mp found
  have present : t.isSome = true := defined.types (name, t) (by rw [named]; exact entry)
  rw [type?, named, Option.bind_some, found]
  obtain ⟨d, rfl⟩ := Option.isSome_iff_exists.mp present
  rfl

end Module

/-- A type that is located in defined modules has a definition. -/
theorem Project.isSome_type?_of_findType (defined : ∀ m ∈ p.moduleList, m.2.IsDefined)
    {name : String} {loc : TypeLocator} (found : p.findType name = some loc) :
    (loc.module.type? name).isSome = true := by
  obtain ⟨⟨key, m⟩, first, rfl⟩ := Option.map_eq_some_iff.mp found
  have declared : m.hasType name = true :=
    List.find?_some (p := fun (e : String × Module) => e.2.hasType name) first
  exact (defined _ (List.mem_of_find?_eq_some first)).isSome_type? declared

/-! ## Tables -/

/-- Whatever the targets look up for a module has an entry. -/
structure Module.IsCovered (m : Module) : Prop where
  shapes : ∀ t ∈ m.typeList, t.2.validate none = .ok ()
  bases : ∀ e ∈ m.errorList, (Python.errorBase? e.2.effectiveCode).isSome = true
  codes : ∀ e ∈ m.errorList, (Go.codeConstant? e.2.effectiveCode).isSome = true
  kinds : ∀ e ∈ m.endpointList, ∃ resolved, e.2.resolveArguments = .ok resolved ∧
    ∀ a ∈ resolved, TypeScript.kindMember a.kind ≠ "" ∧ Go.kindConstant a.kind ≠ ""

theorem Module.IsValid.isCovered (valid : m.IsValid) : m.IsCovered where
  shapes t mem := by
    obtain ⟨_, result⟩ := valid.types t mem
    exact result
  bases e mem := Python.isSome_errorBase? (valid.errors e mem)
  codes e mem := Go.isSome_codeConstant? (valid.errors e mem)
  kinds e mem := by
    have named : ∀ kind ∈ Endpoint.declarableKinds,
        TypeScript.kindMember kind ≠ "" ∧ Go.kindConstant kind ≠ "" := by decide
    obtain ⟨resolved, result⟩ := (valid.endpoints e mem).resolves
    obtain ⟨-, -, same⟩ := Endpoint.resolve_eq_ok_iff.mp result
    refine ⟨resolved, result, fun a inside => named _ ?_⟩
    subst same
    exact Endpoint.kind_mem_of_mem_ruled (valid.endpoints e mem).kinds inside

namespace Converter

variable {T : Type} {c : Converter T} {v : Visit T}

theorem Shows.isSome_template (shown : c.Shows v) (builtin : v.locator = none) :
    (c.backend.templates.get? v.datatype.name).isSome = true := by
  obtain ⟨values, shown⟩ := shown
  rw [view] at shown
  cases found : c.backend.templates.get? v.datatype.name with
  | some template => rfl
  | none =>
      rw [found] at shown
      obtain ⟨loc, -, same⟩ := Option.map_eq_some_iff.mp shown
      rw [← same] at builtin
      cases builtin

/-- A type that is shown to a target as a builtin one has a template. -/
theorem isSome_template_of_mem_visits {reference : String}
    (mem : v ∈ (c.convert reference).visits) (builtin : v.locator = none) :
    (c.backend.templates.get? v.datatype.name).isSome = true := by
  cases read : Datatype.parse reference with
  | error e =>
      rw [convert_of_parse_error read] at mem
      exact nomatch mem
  | ok d => exact ((listed_of_convert read).shows v mem).isSome_template builtin

end Converter

/-! ## Fields of errors in step -/

namespace Go

/-- A field of the struct of an error stands for a declared field. -/
structure StandsFor (s : Scope) (d : String × ApiCompiler.Field) (f : StructField) : Prop where
  name : f.name =
    if errorMethods.contains (exported d.1) then exported d.1 ++ "_" else exported d.1
  docs : f.docs = docLines 1 d.2.docs
  type : ∃ im im', s.type d.2.type im = .ok (f.type, im')
  tag : f.tag = jsonTag (if isOmittable f.type then d.1 ++ ",omitempty" else d.1)

/-- The call that adds the value of a field to an error under its key. -/
def parameterCall (d : String × ApiCompiler.Field) (f : StructField) : String :=
  "WithParameter(" ++ Text.quote d.1 ++ ", e." ++ f.name ++ ")"

/-- A field of an error, which has another name if a method of errors has its name. -/
def apart (f : StructField) : StructField :=
  if errorMethods.contains f.name then { f with name := f.name ++ "_" } else f

/-- The fields of a struct are made one by one. -/
theorem forall₂_of_fieldsOf {s : Scope} {declared : Option (OrderedMap ApiCompiler.Field)}
    {im im' : Imports} {fields : List StructField}
    (made : fieldsOf s declared im = .ok (fields, im')) :
    List.Forall₂ (fun d f => f.name = exported d.1 ∧ f.docs = docLines 1 d.2.docs ∧
      (∃ im im', s.type d.2.type im = .ok (f.type, im')) ∧
      f.tag = jsonTag (if isOmittable f.type then d.1 ++ ",omitempty" else d.1))
      (OrderedMap.entriesOf declared) fields := by
  refine (Emit.forall₂_of_mapM made).imp ?_
  rintro d f ⟨im, im', made⟩
  obtain ⟨⟨type, _⟩, converted, rest⟩ := bind_eq_ok_iff.mp made
  cases rest
  exact ⟨rfl, rfl, ⟨im, _, labelled_eq_ok_iff.mp converted⟩, rfl⟩

/-- The fields of an error are made as those of a struct, and set apart from its two methods. -/
theorem exists_of_errorDeclarations {s : Scope} {name : String} {e : ErrorDecl}
    {im im' : Imports} {declarations : List Declaration}
    (done : errorDeclarations s name e im = .ok (declarations, im')) :
    ∃ fields imports message start, fieldsOf s e.fields im = .ok (fields, imports) ∧
      declarations = [.struct (docLines 0 e.docs) (name ++ "Error") none none (fields.map apart),
        .function [] ("(e *" ++ (name ++ "Error") ++ ") Error() string") message,
        .function ["ServiceError returns the wire representation of e."]
          ("(e *" ++ (name ++ "Error") ++ ") ServiceError() *cytonic.ServiceError")
          (callChain start
            (List.zipWith parameterCall (OrderedMap.entriesOf e.fields) (fields.map apart)))] := by
  obtain ⟨⟨fields, imports⟩, made, rest⟩ := bind_eq_ok_iff.mp done
  cases found : codeConstant? e.effectiveCode with
  | none =>
      simp only [found] at rest
      cases rest
  | some code =>
      simp only [found] at rest
      injection rest with same
      injection same with same _
      subst same
      have calls : (((OrderedMap.entriesOf e.fields).map (·.1)).zip (fields.map apart)).map
          (fun d => "WithParameter(" ++ Text.quote d.1 ++ ", e." ++ d.2.name ++ ")") =
          List.zipWith parameterCall (OrderedMap.entriesOf e.fields) (fields.map apart) := by
        rw [List.zip_eq_zipWith, List.map_zipWith, List.zipWith_map_left]
        rfl
      refine ⟨fields, imports, ?message, ?start, made, ?declarations⟩
      case declarations =>
        rw [← calls]
        rfl

/-- The struct of an error has a field for each declared one, and `ServiceError` adds to the
error, for each declared field, the value of the field that stands for it. -/
theorem standFor_of_errorDeclarations {s : Scope} {name : String} {e : ErrorDecl}
    {im im' : Imports} {declarations : List Declaration}
    (done : errorDeclarations s name e im = .ok (declarations, im')) :
    ∃ fields message head start,
      List.Forall₂ (StandsFor s) (OrderedMap.entriesOf e.fields) fields ∧
      declarations = [.struct (docLines 0 e.docs) (name ++ "Error") none none fields, message,
        .function ["ServiceError returns the wire representation of e."] head (callChain start
          (List.zipWith parameterCall (OrderedMap.entriesOf e.fields) fields))] := by
  obtain ⟨fields, _, _, start, made, same⟩ := exists_of_errorDeclarations done
  have inStep : List.Forall₂ (StandsFor s) (OrderedMap.entriesOf e.fields)
      (fields.map apart) := by
    rw [List.forall₂_map_right_iff]
    refine (forall₂_of_fieldsOf made).imp ?_
    rintro d f ⟨named, docs, type, tag⟩
    rw [apart, named]
    split
    · rename_i taken
      exact ⟨by rw [if_pos taken], docs, type, tag⟩
    · rename_i free
      exact ⟨by rw [if_neg free, named], docs, type, tag⟩
  exact ⟨fields.map apart, _, _, start, inStep, same⟩

end Go

/-! ## Safe runs -/

namespace Project

theorem isValid_of_validate (valid : ∀ m ∈ p.moduleList, m.2.validate = .ok ())
    {name : String} (mem : name ∈ p.moduleNames) :
    ∃ m, p.module? name = some m ∧ m.IsValid := by
  obtain ⟨m, found⟩ := mem_moduleNames_iff.mp mem
  have inside := module?_eq_some_iff.mp found
  exact ⟨m, found, Module.isValid_of_validate ⟨_, valid _ inside⟩⟩

/-- If all modules of a project are valid, every name that they declare has a definition, and so
has every type that a reference is resolved to; every table has an entry for what is looked up
in it; and the targets report nothing that validation would have reported: the TypeScript target
reports wrong references only, the Python target also an argument with the name of a builtin
function, the Go target also a draft that has no standard form, and the description also an
argument with the name of credentials and a route that cannot be read from its text. In the Go
code of an error the fields of its struct and the keys of its parameters are in step with the
declared fields. -/
theorem validation_suffices (valid : ∀ m ∈ p.moduleList, m.2.validate = .ok ()) :
    (∀ m ∈ p.moduleList, m.2.IsDefined ∧ m.2.IsCovered) ∧
    (∀ name loc, p.findType name = some loc → (loc.module.type? name).isSome = true) ∧
    (∀ {T : Type} (c : Converter T) (reference : String), ∀ v ∈ (c.convert reference).visits,
      v.locator = none → (c.backend.templates.get? v.datatype.name).isSome = true) ∧
    (∀ name ∈ p.moduleNames, ∀ settings,
      Blames Error.IsReferenceFault (TypeScript.renderModule p name settings)) ∧
    (∀ modules ⊆ p.moduleNames, ∀ indent source,
      Blames Python.IsFault (Python.renderFile p modules indent source)) ∧
    (∀ name ∈ p.moduleNames, ∀ settings, Blames Go.IsFault (Go.renderModule p name settings)) ∧
    Blames ModuleDescription.IsFault (ModuleDescription.ofProject p) ∧
    ∀ (s : Go.Scope) (name : String) (e : ErrorDecl) (im im' : Imports) (declarations),
      Go.errorDeclarations s name e im = .ok (declarations, im') →
      ∃ fields message head start,
        List.Forall₂ (Go.StandsFor s) (OrderedMap.entriesOf e.fields) fields ∧
        declarations = [.struct (Go.docLines 0 e.docs) (name ++ "Error") none none fields, message,
          .function ["ServiceError returns the wire representation of e."] head
            (Go.callChain start
              (List.zipWith Go.parameterCall (OrderedMap.entriesOf e.fields) fields))] := by
  have modules : ∀ m ∈ p.moduleList, m.2.IsValid := fun m mem =>
    Module.isValid_of_validate ⟨_, valid m mem⟩
  have defined : ∀ m ∈ p.moduleList, m.2.IsDefined := fun m mem =>
    Module.isDefined_of_validate ⟨_, valid m mem⟩
  refine ⟨?defined, ?located, ?templates, ?typeScript, ?python, ?go, ?description, ?errors⟩
  case defined => exact fun m mem => ⟨defined m mem, (modules m mem).isCovered⟩
  case located => exact fun name loc found => isSome_type?_of_findType defined found
  case templates =>
    exact fun c reference v mem builtin => Converter.isSome_template_of_mem_visits mem builtin
  case typeScript =>
    intro name mem settings
    obtain ⟨m, found, valid⟩ := isValid_of_validate valid mem
    exact TypeScript.blames_renderModule settings found valid
  case python =>
    intro names inside indent source
    exact Python.blames_renderFile indent source fun name mem =>
      isValid_of_validate valid (inside mem)
  case go =>
    intro name mem settings
    obtain ⟨m, found, valid⟩ := isValid_of_validate valid mem
    exact Go.blames_renderModule settings found valid
  case description => exact ModuleDescription.blames_ofProject modules
  case errors => exact fun s name e im im' declarations => Go.standFor_of_errorDeclarations

/-- The modules of `todo` are valid, so each target reports faults of its own sort only. -/
theorem validation_suffices_todo :
    (∀ m ∈ todo.moduleList, m.2.validate = .ok ()) ∧
      (∀ m ∈ todo.moduleList, m.2.IsDefined ∧ m.2.IsCovered) ∧
      (∀ indent source,
        Blames Python.IsFault (Python.renderFile todo todo.moduleNames indent source)) ∧
      Blames ModuleDescription.IsFault (ModuleDescription.ofProject todo) := by
  have valid : ∀ m ∈ todo.moduleList, m.2.validate = .ok () :=
    List.forall_mem_cons.mpr ⟨rfl, List.forall_mem_cons.mpr ⟨rfl, nofun⟩⟩
  obtain ⟨declared, -, -, -, python, -, description, -⟩ := validation_suffices valid
  exact ⟨valid, declared, python _ (List.Subset.refl _), description⟩

end Project

end ApiCompiler
