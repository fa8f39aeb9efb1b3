import ApiCompiler.Proofs.Convert.Footprint
import ApiCompiler.Proofs.Module.Valid
import ApiCompiler.Target.TypeScript.Generate

/-!
# What TypeScript code reads of a project

For every function of the TypeScript target: the references it converts, and the
condition on the module under which it succeeds. Types and descriptions convert the
same references, and so do the interfaces and the descriptor of a service.
-/

namespace ApiCompiler.TypeScript

open Fallible

/-- The scope of the same module in another project. -/
def Scope.on (s : Scope) (p : Project) : Scope := { s with project := p }

@[simp]
theorem Scope.on_module (s : Scope) (p : Project) : (s.on p).module = s.module :=
  rfl

theorem reads_type (s : Scope) (reference : String) :
    Emit.Reads (fun p => (s.on p).type reference) True [reference] :=
  .convert typeBackend standard_typeTemplates s.name importSource typeNeeds reference

theorem reads_descriptor (s : Scope) (reference : String) :
    Emit.Reads (fun p => (s.on p).descriptor reference) True [reference] :=
  .convert descriptorBackend standard_descriptorTemplates s.name importSource
    (descriptorNeeds importSource) reference

theorem reads_runtime (symbol : String) : Emit.Reads (fun _ => runtime symbol) True [] :=
  (Emit.Reads.need runtimeModule symbol).bind_pure _

/-- A type and its description together read one reference. -/
theorem reads_typeAndDescriptor {α : Type} (s : Scope) (label reference : String)
    (f : String → String → α) :
    Emit.Reads (fun p => Emit.within label do
      return f (← (s.on p).type reference) (← (s.on p).descriptor reference)) True
      [reference] := by
  refine (((reads_type s reference).bind fun _ type =>
    (reads_descriptor s reference).bind_pure _).within label).of_iff ?_ fun _ r => ?_
  · simp
  · simp

/-! ## Types and errors -/

theorem reads_enumeration (length : Int) (name : String) (values : List EnumValue) :
    Emit.Reads (fun _ => enumeration length name values) True [] :=
  (reads_runtime "EnumType").bind_pure _

theorem reads_union (s : Scope) (name : String) (variants : List (String × String)) :
    Emit.Reads (fun p => union (s.on p) name variants) True (variants.map (·.2)) := by
  unfold union
  refine ((Emit.Reads.mapM fun e _ =>
    reads_typeAndDescriptor s ("variant " ++ e.1) e.2 fun type d => (e.1, type, d)).bind
      fun _ converted => (reads_runtime "UnionType").bind_pure _).of_iff ?_ fun _ r => ?_
  · simp
  · rw [List.append_nil, List.map_eq_flatMap]

theorem reads_baseType (s : Scope) (t : TypeDecl) :
    Emit.Reads (fun p => baseType (s.on p) t) True t.extends_.toList := by
  unfold baseType
  cases t.extends_ with
  | none => exact .pure none
  | some base => exact reads_typeAndDescriptor s "extends" base fun type d => some (type, d)

theorem reads_struct (s : Scope) (name : String) (t : TypeDecl) :
    Emit.Reads (fun p => struct (s.on p) name t) True
      (fieldTypes t.fields ++ t.extends_.toList) := by
  unfold struct
  refine ((Emit.Reads.mapM fun e _ =>
    reads_typeAndDescriptor s ("field " ++ e.1) e.2.type fun type d =>
      (propertyName e.1, type, d)).bind fun _ fields =>
    (reads_baseType s t).bind fun _ base =>
      (reads_runtime "StructType").bind_pure _).of_iff ?_ fun _ r => ?_
  · simp
  · rw [List.append_nil, fieldTypes, List.map_eq_flatMap]

theorem reads_typeBody (length : Int) (s : Scope) (name : String) (t : TypeDecl) :
    Emit.Reads (fun p => typeBody length (s.on p) name t) True t.shownReferences := by
  unfold typeBody TypeDecl.shownReferences
  cases t.shape with
  | enum => exact reads_enumeration length name _
  | union => exact reads_union s name _
  | struct => exact reads_struct s name t

theorem reads_typeDeclaration (length : Int) (s : Scope) (name : String) (t : TypeDecl) :
    Emit.Reads (fun p => typeDeclaration length (s.on p) name t) (Succeeds (t.validate none))
      t.references := by
  unfold typeDeclaration
  refine (Emit.Reads.ofExcept_bind fun _ _ =>
    (reads_typeBody length s name t).bind_pure _).of_iff (and_iff_left trivial) fun valid => ?_
  exact TypeDecl.mem_shownReferences_iff (TypeDecl.succeeds_validate_iff.mp valid.1)

theorem reads_errorDeclaration (length : Int) (s : Scope) (name : String) (e : ErrorDecl) :
    Emit.Reads (fun p => errorDeclaration length (s.on p) name e) True (fieldTypes e.fields) := by
  simp only [errorDeclaration, Scope.on_module]
  refine ((Emit.Reads.mapM fun (f : String × Field) _ =>
    ((reads_type s f.2.type).within ("field " ++ f.1)).bind_pure _).bind fun _ params =>
    (reads_runtime "ServiceException").bind_pure _).of_iff ?_ fun _ r => ?_
  · simp
  · rw [List.append_nil, fieldTypes, List.map_eq_flatMap]

/-! ## Interfaces of the service -/

theorem reads_credentialParams (s : Scope) (e : Endpoint) :
    Emit.Reads (fun p => credentialParams (s.on p) e) True [] := by
  simp only [credentialParams, Scope.on_module]
  by_cases needed : (s.module.endpointAuth e).isSome = true
  · simp only [needed, if_true]
    exact (reads_runtime "Credentials").bind_pure _
  · simp only [needed]
    exact .pure []

theorem reads_resultType (s : Scope) (name : String) (e : Endpoint) :
    Emit.Reads (fun p => resultType (s.on p) name e) True
      (if e.result == "" then [] else [e.result]) := by
  unfold resultType
  exact .ite (.pure "void") ((reads_type s e.result).within (returnLabel name))

theorem reads_signature (s : Scope) (isAsync : Bool) (name : String) (e : Endpoint) :
    Emit.Reads (fun p => signature (s.on p) isAsync name e) True e.references := by
  unfold signature
  refine ((reads_credentialParams s e).bind fun _ credentials =>
    (Emit.Reads.mapM fun a _ =>
      ((reads_type s a.2.type).within (argumentLabel name a.1)).bind_pure _).bind fun _ args =>
    (reads_resultType s name e).bind_pure _).of_iff ?_ fun _ r => ?_
  · simp
  · rw [Endpoint.references, List.map_eq_flatMap, List.nil_append]

theorem reads_clientNamespace (s : Scope) (name : String) :
    Emit.Reads (fun p => clientNamespace (s.on p) name) True [] := by
  simp only [clientNamespace, Scope.on_module]
  refine ((reads_runtime "ClientConfig").bind fun _ config =>
    (reads_runtime "createAsyncClient").bind_pure _).of_iff ?_ fun _ r => Iff.rfl
  simp

theorem reads_client (s : Scope) (isAsync : Bool) (name : String) :
    Emit.Reads (fun p => client (s.on p) isAsync name) True [] := by
  cases isAsync with
  | false => exact .pure id
  | true => exact (reads_clientNamespace s name).bind_pure _

theorem reads_serviceInterface (length : Int) (s : Scope) (isAsync : Bool) :
    Emit.Reads (fun p => serviceInterface length (s.on p) isAsync) True
      (s.module.endpointList.flatMap fun e => e.2.references) := by
  simp only [serviceInterface, Scope.on_module]
  refine ((Emit.Reads.mapM fun (e : String × Endpoint) _ =>
    reads_signature s isAsync e.1 e.2).bind fun _ methods =>
    (reads_client s isAsync _).bind_pure _).of_iff ?_ fun _ r => ?_
  · simp
  · rw [List.append_nil]

/-! ## The descriptor of the service -/

theorem reads_argumentEntries (args : List (ResolvedArgument × String)) :
    Emit.Reads (fun _ => argumentEntries args) True [] := by
  unfold argumentEntries
  by_cases empty : args.isEmpty = true
  · simp only [empty, if_true]
    exact .pure id
  · simp only [empty]
    exact (reads_runtime "ParamKind").bind_pure _

theorem reads_resultEntry (s : Scope) (e : Endpoint) :
    Emit.Reads (fun p => resultEntry (s.on p) e) True
      (if e.result == "" then [] else [e.result]) := by
  unfold resultEntry
  exact .ite (.pure id) (((reads_descriptor s e.result).within "return").bind_pure _)

theorem reads_endpointEntry (s : Scope) (name : String) (e : Endpoint) :
    Emit.Reads (fun p => endpointEntry (s.on p) name e) (Succeeds e.resolveArguments)
      e.references := by
  unfold endpointEntry
  refine (Emit.Reads.ofExcept_bind fun resolved result => ?_).of_iff (and_iff_left trivial)
    fun _ _ => Iff.rfl
  have types := Endpoint.types_of_resolveArguments result
  refine ((reads_resultEntry s e).bind fun _ entry =>
    (Emit.Reads.mapM fun a _ =>
      ((reads_descriptor s a.type).within ("argument " ++ a.name)).bind_pure _).bind fun _ args =>
    (reads_argumentEntries args).bind_pure _).of_iff ?_ fun _ r => ?_
  · simp
  · rw [Endpoint.references, ← types, List.map_eq_flatMap, List.append_nil, List.mem_append,
      List.mem_append, or_comm]

theorem reads_serviceDescriptor (s : Scope) :
    Emit.Reads (fun p => serviceDescriptor (s.on p))
      (∀ e ∈ s.module.endpointList, Succeeds e.2.resolveArguments)
      (s.module.endpointList.flatMap fun e => e.2.references) := by
  simp only [serviceDescriptor, Scope.on_module]
  refine ((reads_runtime "Service").bind fun _ service =>
    (Emit.Reads.mapM fun (e : String × Endpoint) _ =>
      (reads_endpointEntry s e.1 e.2).within ("endpoint " ++ e.1)).bind_pure _).of_iff ?_
      fun _ r => Iff.rfl
  simp only [true_and]

theorem reads_servicePieces (length : Int) (s : Scope) :
    Emit.Reads (fun p => servicePieces length (s.on p))
      (∀ e ∈ s.module.endpointList, Succeeds e.2.resolveArguments)
      (s.module.endpointList.flatMap fun e => e.2.references) := by
  simp only [servicePieces, Scope.on_module]
  by_cases empty : (OrderedMap.entriesOf s.module.endpoints).isEmpty = true
  · simp only [empty, if_true, Module.endpointList_eq_nil empty]
    exact (Emit.Reads.pure []).of_iff (by simp) fun _ r => Iff.rfl
  · simp only [empty]
    refine ((Emit.Reads.mapM fun isAsync _ =>
      reads_serviceInterface length s isAsync).bind fun _ interfaces =>
      (reads_serviceDescriptor s).bind_pure _).of_iff ?_ fun _ r => ?_
    · simp
    · simp

/-- The conditions under which the TypeScript target accepts a module, besides the
conversion of its references. -/
structure Accepts (m : Module) : Prop where
  types : ∀ t ∈ m.typeList, Succeeds (t.2.validate none)
  endpoints : ∀ e ∈ m.endpointList, Succeeds e.2.resolveArguments

/-- Rendering a module reads all references that the module declares. -/
theorem reads_pieces (length : Int) (s : Scope) :
    Emit.Reads (fun p => pieces length (s.on p)) (Accepts s.module)
      (Go.typeReferences s.module) := by
  simp only [pieces, Scope.on_module]
  refine ((Emit.Reads.mapM fun (t : String × TypeDecl) _ =>
      (reads_typeDeclaration length s t.1 t.2).within ("type " ++ t.1)).bind fun _ types =>
    (Emit.Reads.mapM fun (e : String × ErrorDecl) _ =>
      (reads_errorDeclaration length s e.1 e.2).within ("error " ++ e.1)).bind fun _ errors =>
    (reads_servicePieces length s).bind_pure _).of_iff ?_ fun _ r => ?_
  · exact ⟨fun ⟨types, _, endpoints⟩ => ⟨types, endpoints⟩,
      fun ⟨types, endpoints⟩ => ⟨types, fun _ _ => trivial, endpoints⟩⟩
  · rw [Go.typeReferences_eq, List.append_assoc]

end ApiCompiler.TypeScript
