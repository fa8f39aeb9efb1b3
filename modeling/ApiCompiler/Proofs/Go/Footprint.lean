import ApiCompiler.Proofs.Convert.Footprint
import ApiCompiler.Proofs.Convert.Needs
import ApiCompiler.Proofs.Module.Valid
import ApiCompiler.Target.Go.Generate

/-!
# What Go code reads of a project

For every function of the Go target: the references it converts, and the symbols it
records. The interface of a service converts the references of the endpoints as type
expressions and records them; the function that describes the service converts the
same references again and records nothing.
-/

namespace ApiCompiler.Go

open Fallible

/-- The scope of the same module in another project. -/
def Scope.on (s : Scope) (p : Project) : Scope := { s with project := p }

@[simp]
theorem Scope.on_module (s : Scope) (p : Project) : (s.on p).module = s.module :=
  rfl

/-! ## Footprints -/

theorem reads_type (s : Scope) (reference : String) :
    Emit.Reads (fun p => (s.on p).type reference) True [reference] :=
  .convert (typeBackend s.name) standard_typeTemplates s.name s.source typeNeeds reference

theorem reads_ref (s : Scope) (reference : String) :
    Emit.Reads (fun p => (s.on p).ref reference) True [reference] :=
  .ofExcept (.convert refBackend standard_refTemplates s.name id reference)

theorem reads_fieldsOf (s : Scope) (fields : Option (OrderedMap ApiCompiler.Field)) :
    Emit.Reads (fun p => fieldsOf (s.on p) fields) True (fieldTypes fields) := by
  unfold fieldsOf
  refine (Emit.Reads.mapM fun e _ =>
    ((reads_type s e.2.type).within ("field " ++ e.1)).bind_pure _).of_iff ?_ fun _ r => ?_
  · simp
  · rw [fieldTypes, List.map_eq_flatMap]

theorem reads_union (s : Scope) (name : String) (t : TypeDecl) :
    Emit.Reads (fun p => union (s.on p) name t) True
      ((OrderedMap.entriesOf t.union).map (·.2)) := by
  unfold union
  refine (Emit.Reads.mapM fun e _ =>
    ((reads_type s e.2).within ("variant " ++ e.1)).bind_pure _).bind_pure _ |>.of_iff ?_
      fun _ r => ?_
  · simp
  · rw [List.map_eq_flatMap]

theorem reads_baseType (s : Scope) (t : TypeDecl) :
    Emit.Reads (fun p => baseType (s.on p) t) True t.extends_.toList := by
  unfold baseType
  cases t.extends_ with
  | none => exact .pure none
  | some base => exact ((reads_type s base).within "extends").bind_pure some

theorem reads_struct (s : Scope) (name : String) (t : TypeDecl) :
    Emit.Reads (fun p => struct (s.on p) name t) True
      (fieldTypes t.fields ++ t.extends_.toList) := by
  unfold struct
  refine ((reads_fieldsOf s t.fields).bind fun _ fields =>
    (reads_baseType s t).bind_pure _).of_iff ?_ fun _ r => Iff.rfl
  simp

theorem reads_typeDeclarations (s : Scope) (name : String) (t : TypeDecl) :
    Emit.Reads (fun p => typeDeclarations (s.on p) name t) (Succeeds (t.validate none))
      t.references := by
  unfold typeDeclarations
  refine (Emit.Reads.ofExcept_bind fun _ _ => ?_).of_iff (and_iff_left trivial) fun valid =>
    TypeDecl.mem_shownReferences_iff (TypeDecl.succeeds_validate_iff.mp valid.1)
  unfold TypeDecl.shownReferences
  cases t.shape with
  | enum => exact .pure _
  | union => exact reads_union s name t
  | struct => exact reads_struct s name t

theorem reads_errorDeclarations (s : Scope) (name : String) (e : ErrorDecl) :
    Emit.Reads (fun p => errorDeclarations (s.on p) name e)
      ((codeConstant? e.effectiveCode).isSome = true) (fieldTypes e.fields) := by
  simp only [errorDeclarations, Scope.on_module]
  cases codeConstant? e.effectiveCode with
  | none =>
      refine ((reads_fieldsOf s e.fields).bind fun _ fields => .fail _).of_iff ?_ fun _ r => ?_
      · simp
      · simp
  | some code =>
      refine ((reads_fieldsOf s e.fields).bind fun _ fields =>
        (Emit.Reads.needModule runtimeImport).bind_pure _).of_iff ?_ fun _ r => ?_
      · simp
      · simp

theorem reads_credentialParams (s : Scope) (e : Endpoint) :
    Emit.Reads (fun p => credentialParams (s.on p) e) True [] := by
  simp only [credentialParams, Scope.on_module]
  by_cases needed : (s.module.endpointAuth e).isSome = true
  · simp only [needed, if_true]
    exact (Emit.Reads.needModule runtimeImport).bind_pure _
  · simp only [needed]
    exact .pure []

theorem reads_resultType (s : Scope) (name : String) (e : Endpoint) :
    Emit.Reads (fun p => resultType (s.on p) name e) True
      (if e.result == "" then [] else [e.result]) := by
  unfold resultType
  exact .ite (.pure none) (((reads_type s e.result).within (returnLabel name)).bind_pure some)

theorem reads_endpointMethod (s : Scope) (name : String) (e : Endpoint) :
    Emit.Reads (fun p => endpointMethod (s.on p) name e) True e.references := by
  unfold endpointMethod
  refine ((reads_credentialParams s e).bind fun _ credentials =>
    (Emit.Reads.mapM fun a _ =>
      ((reads_type s a.2.type).within (argumentLabel name a.1)).bind_pure _).bind fun _ args =>
    (reads_resultType s name e).bind_pure _).of_iff ?_ fun _ r => ?_
  · simp
  · rw [Endpoint.references, List.map_eq_flatMap, List.nil_append]

theorem reads_serviceInterface (s : Scope) :
    Emit.Reads (fun p => serviceInterface (s.on p)) True
      (s.module.endpointList.flatMap fun e => e.2.references) := by
  simp only [serviceInterface, Scope.on_module]
  refine ((Emit.Reads.needModule "context").bind fun _ _ =>
    (Emit.Reads.mapM fun e _ => reads_endpointMethod s e.1 e.2).bind_pure _).of_iff ?_
      fun _ r => Iff.rfl
  simp

theorem reads_argumentCall (s : Scope) (endpoint : String) (a : ResolvedArgument) :
    Emit.Reads (fun p => argumentCall (s.on p) endpoint a) True [a.type] := by
  unfold argumentCall
  exact ((reads_ref s a.type).within (argumentLabel endpoint a.name)).bind_pure _

theorem reads_resultCalls (s : Scope) (name : String) (e : Endpoint) :
    Emit.Reads (fun p => resultCalls (s.on p) name e) True
      (if e.result == "" then [] else [e.result]) := by
  unfold resultCalls
  exact .ite (.pure []) (((reads_ref s e.result).within (returnLabel name)).bind_pure _)

/-- The arguments are described with their resolved kinds, and these have the types of
the declared ones. -/
theorem reads_endpointCalls (s : Scope) (name : String) (e : Endpoint) :
    Emit.Reads (fun p => endpointCalls (s.on p) name e) (Succeeds e.resolveArguments)
      e.references := by
  simp only [endpointCalls, Scope.on_module]
  have same : Succeeds (labelled ("endpoint " ++ name) e.resolveArguments) ∧ True ↔
      Succeeds e.resolveArguments := by
    rw [succeeds_labelled_iff, and_true]
  refine (Emit.Reads.ofExcept_bind fun resolved result => ?_).of_iff same fun _ _ => Iff.rfl
  have types := Endpoint.types_of_resolveArguments (labelled_eq_ok_iff.mp result)
  refine ((Emit.Reads.mapM fun a _ => reads_argumentCall s name a).bind fun _ args =>
    (reads_resultCalls s name e).bind_pure _).of_iff ?_ fun _ r => ?_
  · simp
  · rw [Endpoint.references, ← types, List.map_eq_flatMap]

theorem reads_serviceDescription (s : Scope) :
    Emit.Reads (fun p => serviceDescription (s.on p))
      (∀ e ∈ s.module.endpointList, Succeeds e.2.resolveArguments)
      (s.module.endpointList.flatMap fun e => e.2.references) := by
  simp only [serviceDescription, Scope.on_module]
  refine ((Emit.Reads.needModule runtimeImport).bind fun _ _ =>
    (Emit.Reads.needModule describeImport).bind fun _ _ =>
    (Emit.Reads.mapM fun (e : String × Endpoint) _ =>
      reads_endpointCalls s e.1 e.2).bind_pure _).of_iff ?_ fun _ r => Iff.rfl
  simp only [true_and]

theorem reads_serviceDeclarations (s : Scope) :
    Emit.Reads (fun p => serviceDeclarations (s.on p))
      (∀ e ∈ s.module.endpointList, Succeeds e.2.resolveArguments)
      (s.module.endpointList.flatMap fun e => e.2.references) := by
  simp only [serviceDeclarations, Scope.on_module]
  by_cases empty : (OrderedMap.entriesOf s.module.endpoints).isEmpty = true
  · have none : s.module.endpointList = [] := Module.endpointList_eq_nil empty
    simp only [empty, if_true, none]
    exact (Emit.Reads.pure []).of_iff (by simp) fun _ r => Iff.rfl
  · simp only [empty]
    refine ((reads_serviceInterface s).bind fun _ interface =>
      (reads_serviceDescription s).bind_pure _).of_iff (by simp) fun _ r => ?_
    simp

/-- The conditions under which the Go target accepts a module, besides the conversion
of its references. -/
structure Accepts (m : Module) : Prop where
  types : ∀ t ∈ m.typeList, Succeeds (t.2.validate none)
  errors : ∀ e ∈ m.errorList, (codeConstant? e.2.effectiveCode).isSome = true
  endpoints : ∀ e ∈ m.endpointList, Succeeds e.2.resolveArguments

/-- Rendering a module reads all references that the module declares. -/
theorem reads_moduleDeclarations (s : Scope) :
    Emit.Reads (fun p => moduleDeclarations (s.on p)) (Accepts s.module)
      (typeReferences s.module) := by
  simp only [moduleDeclarations, Scope.on_module]
  refine ((Emit.Reads.mapM fun t _ =>
      (reads_typeDeclarations s t.1 t.2).within ("type " ++ t.1)).bind fun _ types =>
    (Emit.Reads.mapM fun e _ =>
      (reads_errorDeclarations s e.1 e.2).within ("error " ++ e.1)).bind fun _ errors =>
    (reads_serviceDeclarations s).bind_pure _).of_iff ?_ fun _ r => ?_
  · exact ⟨fun ⟨types, errors, endpoints⟩ => ⟨types, errors, endpoints⟩,
      fun ⟨types, errors, endpoints⟩ => ⟨types, errors, endpoints⟩⟩
  · rw [typeReferences_eq, List.append_assoc]

/-! ## Recorded symbols -/

/-- A computation of the Go target records the types that some references name. -/
abbrev Records {α : Type} (s : Scope) (run : Emit α) (references : List String) : Prop :=
  Emit.Records Import.IsSymbol
    (Converter.Provides ⟨s.project, s.name, typeBackend s.name, s.source⟩) run references

theorem records_type (s : Scope) (reference : String) :
    Records s (s.type reference) [reference] := by
  have all : Emit.Records (fun _ => True) _ (s.type reference) [reference] :=
    .convert supplies_typeNeeds reference
  refine all.restrict (fun _ _ => trivial) fun node i counts => or_iff_left ?_
  -- builtin types need whole packages, and no symbols are derived
  rintro (listed | ⟨loc, symbol, -, derived, -⟩)
  · obtain ⟨-, rfl⟩ | ⟨-, rfl⟩ : node.name = "datetime" ∧ i = .module "time" ∨
        node.name = "decimal" ∧ i = .module "math/big" := by simpa [demands] using listed
    · exact counts
    · exact counts
  · exact nomatch derived

theorem records_ref (s : Scope) (reference : String) : Records s (s.ref reference) [] :=
  .ofExcept _

theorem records_fieldsOf (s : Scope) (fields : Option (OrderedMap ApiCompiler.Field)) :
    Records s (fieldsOf s fields) (fieldTypes fields) := by
  rw [fieldTypes, List.map_eq_flatMap]
  exact .mapM fun e _ => ((records_type s e.2.type).within ("field " ++ e.1)).bind_pure _

theorem records_union (s : Scope) (name : String) (t : TypeDecl) :
    Records s (union s name t) ((OrderedMap.entriesOf t.union).map (·.2)) := by
  rw [List.map_eq_flatMap]
  exact .bind_pure (.mapM fun e _ =>
    ((records_type s e.2).within ("variant " ++ e.1)).bind_pure _) _

theorem records_baseType (s : Scope) (t : TypeDecl) :
    Records s (baseType s t) t.extends_.toList := by
  unfold baseType
  cases t.extends_ with
  | none => exact .pure none
  | some base => exact ((records_type s base).within "extends").bind_pure some

theorem records_struct (s : Scope) (name : String) (t : TypeDecl) :
    Records s (struct s name t) (fieldTypes t.fields ++ t.extends_.toList) :=
  (records_fieldsOf s t.fields).bind fun _ => (records_baseType s t).bind_pure _

theorem records_typeDeclarations (s : Scope) (name : String) (t : TypeDecl) :
    Records s (typeDeclarations s name t) t.references := by
  refine .ofExcept_bind fun a valid => .of_iff ?_
    (TypeDecl.mem_shownReferences_iff (TypeDecl.succeeds_validate_iff.mp ⟨a, valid⟩))
  unfold TypeDecl.shownReferences
  cases t.shape with
  | enum => exact .pure _
  | union => exact records_union s name t
  | struct => exact records_struct s name t

theorem records_errorDeclarations (s : Scope) (name : String) (e : ErrorDecl) :
    Records s (errorDeclarations s name e) (fieldTypes e.fields) := by
  rw [← List.append_nil (fieldTypes e.fields)]
  refine (records_fieldsOf s e.fields).bind fun fields => ?_
  cases codeConstant? e.effectiveCode with
  | none => exact .fail _
  | some code => exact (Emit.Records.needModule runtimeImport).bind_pure _

theorem records_credentialParams (s : Scope) (e : Endpoint) :
    Records s (credentialParams s e) [] := by
  unfold credentialParams
  split
  · exact (Emit.Records.needModule runtimeImport).bind_pure _
  · exact .pure []

theorem records_resultType (s : Scope) (name : String) (e : Endpoint) :
    Records s (resultType s name e) (if e.result == "" then [] else [e.result]) :=
  .ite (.pure none) (((records_type s e.result).within (returnLabel name)).bind_pure some)

theorem records_endpointMethod (s : Scope) (name : String) (e : Endpoint) :
    Records s (endpointMethod s name e) e.references := by
  rw [Endpoint.references, List.map_eq_flatMap]
  refine (records_credentialParams s e).bind fun _ => .bind (.mapM fun a _ => ?_) fun _ =>
    (records_resultType s name e).bind_pure _
  exact ((records_type s a.2.type).within (argumentLabel name a.1)).bind_pure _

theorem records_serviceInterface (s : Scope) :
    Records s (serviceInterface s) (s.module.endpointList.flatMap fun e => e.2.references) :=
  (Emit.Records.needModule "context").bind fun _ =>
    .bind_pure (.mapM fun e _ => records_endpointMethod s e.1 e.2) _

theorem records_endpointCalls (s : Scope) (name : String) (e : Endpoint) :
    Records s (endpointCalls s name e) [] := by
  refine .ofExcept_bind fun resolved _ => .bind (.mapM_nil fun a => ?_) fun _ => .bind_pure ?_ _
  · exact ((records_ref s a.type).within (argumentLabel name a.name)).bind_pure _
  · unfold resultCalls
    split
    · exact .pure []
    · exact ((records_ref s e.result).within (returnLabel name)).bind_pure _

theorem records_serviceDescription (s : Scope) : Records s (serviceDescription s) [] := by
  unfold serviceDescription
  refine (Emit.Records.needModule runtimeImport).bind fun _ =>
    (Emit.Records.needModule describeImport).bind fun _ => .bind_pure (.mapM_nil fun e => ?_) _
  exact records_endpointCalls s e.1 e.2

theorem records_serviceDeclarations (s : Scope) :
    Records s (serviceDeclarations s)
      (s.module.endpointList.flatMap fun e => e.2.references) := by
  unfold serviceDeclarations
  split
  · rename_i empty
    rw [Module.endpointList_eq_nil empty]
    exact .pure []
  · refine Emit.Records.of_iff ((records_serviceInterface s).bind fun _ =>
      (records_serviceDescription s).bind_pure _) fun r => ?_
    rw [List.append_nil]

/-- Rendering a module records the custom types of all references that the module
declares, and no others. -/
theorem records_moduleDeclarations (s : Scope) :
    Records s (moduleDeclarations s) (typeReferences s.module) := by
  rw [typeReferences_eq, List.append_assoc]
  refine .bind (.mapM fun t _ => ?_) fun _ => .bind (.mapM fun e _ => ?_) fun _ =>
    (records_serviceDeclarations s).bind_pure _
  · exact (records_typeDeclarations s t.1 t.2).within ("type " ++ t.1)
  · exact (records_errorDeclarations s e.1 e.2).within ("error " ++ e.1)

end ApiCompiler.Go
