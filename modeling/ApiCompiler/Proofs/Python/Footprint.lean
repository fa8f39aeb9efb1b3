import ApiCompiler.Proofs.Convert.Footprint
import ApiCompiler.Proofs.Module.Valid
import ApiCompiler.Target.Python.Generate

/-!
# What Python code reads of a project

For every function of the Python target: the references it converts, and the condition
on the module under which it succeeds. A service is rendered twice, so its references
are converted twice; an argument whose name collides is refused before its type is
looked at.
-/

namespace ApiCompiler.Python

open Fallible

section

variable (current : String) (source : String → String)

/-- The converter of a file for a project. -/
def converterOn (p : Project) : Converter String := ⟨p, current, backend, source⟩

theorem reads_hint (reference : String) :
    Emit.Reads (fun p => hint (converterOn current source p) reference) True [reference] :=
  .convert backend standard_templates current source needsOf reference

theorem reads_fieldsOf (fields : Option (OrderedMap ApiCompiler.Field)) :
    Emit.Reads (fun p => fieldsOf (converterOn current source p) fields) True
      (fieldTypes fields) := by
  unfold fieldsOf
  refine (Emit.Reads.mapM fun e _ =>
    ((reads_hint current source e.2.type).within ("field " ++ e.1)).bind_pure _).of_iff ?_
      fun _ r => ?_
  · simp
  · rw [fieldTypes, List.map_eq_flatMap]

theorem reads_errorClass (name : String) (e : ErrorDecl) :
    Emit.Reads (fun p => errorClass (converterOn current source p) name e)
      ((errorBase? e.effectiveCode).isSome = true) (fieldTypes e.fields) := by
  unfold errorClass
  cases errorBase? e.effectiveCode with
  | none =>
      refine (Emit.Reads.fail _).of_iff ?_ fun failed => failed.elim
      simp
  | some base =>
      refine ((reads_fieldsOf current source e.fields).bind fun _ fields =>
        (Emit.Reads.needModule "dataclasses").bind fun _ _ =>
        (Emit.Reads.need runtimeModule base).bind_pure _).of_iff ?_ fun _ r => ?_
      · simp
      · simp

theorem reads_baseHints (t : TypeDecl) :
    Emit.Reads (fun p => baseHints (converterOn current source p) t) True
      t.extends_.toList := by
  unfold baseHints
  cases t.extends_ with
  | none => exact .pure []
  | some base => exact ((reads_hint current source base).within "extends").bind_pure _

theorem reads_typeDeclaration (name : String) (t : TypeDecl) :
    Emit.Reads (fun p => typeDeclaration (converterOn current source p) name t) True
      t.shownReferences := by
  unfold typeDeclaration TypeDecl.shownReferences
  cases t.shape with
  | enum => exact (Emit.Reads.needModule "enum").bind_pure _
  | union =>
      refine ((Emit.Reads.mapM fun (e : String × String) _ =>
        ((reads_hint current source e.2).within ("variant " ++ e.1)).bind_pure _).bind
          fun _ variants => (Emit.Reads.needModule "typing").bind fun _ _ =>
        (Emit.Reads.needModule "databind.core.annotations").bind_pure _).of_iff ?_ fun _ r => ?_
      · simp
      · rw [List.append_nil, List.append_nil, List.map_eq_flatMap]
  | struct =>
      refine ((reads_fieldsOf current source t.fields).bind fun _ fields =>
        (Emit.Reads.needModule "dataclasses").bind fun _ _ =>
        (reads_baseHints current source t).bind_pure _).of_iff ?_ fun _ r => Iff.rfl
      simp

theorem reads_authDecorators (auth : Option Auth) :
    Emit.Reads (fun _ => authDecorators auth) True [] := by
  unfold authDecorators
  cases auth with
  | none => exact .pure []
  | some a =>
      refine ((Emit.Reads.need descriptionModule "authentication").bind fun _ _ =>
        (Emit.Reads.need modelModule a.className).bind_pure _).of_iff ?_ fun _ r => Iff.rfl
      simp

theorem reads_signatureArgument (endpoint name : String) (a : Argument) :
    Emit.Reads (fun p => signatureArgument (converterOn current source p) endpoint name a)
      (collides name = false) [a.type] := by
  unfold signatureArgument
  cases collides name with
  | true =>
      refine (Emit.Reads.fail _).of_iff ?_ fun failed => failed.elim
      simp
  | false =>
      refine (((reads_hint current source a.type).within ("argument " ++ name)).bind_pure
        _).of_iff ?_ fun _ r => Iff.rfl
      simp

theorem reads_credentialParams (m : Module) (e : Endpoint) :
    Emit.Reads (fun _ => credentialParams m e) True [] := by
  unfold credentialParams
  by_cases needed : (m.endpointAuth e).isSome = true
  · simp only [needed, if_true]
    exact (Emit.Reads.need runtimeModule "Credentials").bind_pure _
  · simp only [needed]
    exact .pure []

theorem reads_resultHint (e : Endpoint) :
    Emit.Reads (fun p => resultHint (converterOn current source p) e) True
      (if e.result == "" then [] else [e.result]) := by
  unfold resultHint
  exact .ite (.pure "None") ((reads_hint current source e.result).within "return")

theorem reads_endpointMethod (m : Module) (isAsync : Bool) (name : String) (e : Endpoint) :
    Emit.Reads (fun p => endpointMethod (converterOn current source p) m isAsync name e)
      (∀ a ∈ e.argumentList, collides a.1 = false) e.references := by
  unfold endpointMethod
  refine ((Emit.Reads.need descriptionModule "endpoint").bind fun _ _ =>
    (reads_authDecorators e.auth).bind fun _ auth =>
    (reads_credentialParams m e).bind fun _ credentials =>
    (Emit.Reads.mapM fun (a : String × Argument) _ =>
      reads_signatureArgument current source name a.1 a.2).bind fun _ args =>
    (reads_resultHint current source e).bind_pure _).of_iff ?_ fun _ r => ?_
  · simp
  · rw [Endpoint.references, List.map_eq_flatMap]
    rfl

theorem reads_serviceClass (m : Module) (isAsync : Bool) :
    Emit.Reads (fun p => serviceClass (converterOn current source p) m isAsync)
      (∀ e ∈ m.endpointList, ∀ a ∈ e.2.argumentList, collides a.1 = false)
      (m.endpointList.flatMap fun e => e.2.references) := by
  unfold serviceClass
  refine ((Emit.Reads.needModule "abc").bind fun _ _ =>
    (Emit.Reads.need descriptionModule "service").bind fun _ _ =>
    (reads_authDecorators m.auth).bind fun _ auth =>
    (Emit.Reads.mapM fun (e : String × Endpoint) _ =>
      (reads_endpointMethod current source m isAsync e.1 e.2).within
        ("endpoint " ++ e.1)).bind_pure _).of_iff ?_ fun _ r => Iff.rfl
  simp only [true_and]

theorem reads_serviceDeclarations (m : Module) :
    Emit.Reads (fun p => serviceDeclarations (converterOn current source p) m)
      (∀ e ∈ m.endpointList, ∀ a ∈ e.2.argumentList, collides a.1 = false)
      (m.endpointList.flatMap fun e => e.2.references) := by
  unfold serviceDeclarations
  by_cases empty : (OrderedMap.entriesOf m.endpoints).isEmpty = true
  · simp only [empty, if_true, Module.endpointList_eq_nil empty]
    exact (Emit.Reads.pure []).of_iff (by simp) fun _ r => Iff.rfl
  · simp only [empty]
    refine (Emit.Reads.mapM fun isAsync _ =>
      (reads_serviceClass current source m isAsync).bind_pure _).of_iff ?_ fun _ r => ?_
    · simp
    · simp

end

/-- The conditions under which the Python target accepts a module, besides the
conversion of its references. -/
structure Accepts (m : Module) : Prop where
  types : ∀ t ∈ m.typeList, Succeeds (t.2.validate none)
  errors : ∀ e ∈ m.errorList, (errorBase? e.2.effectiveCode).isSome = true
  arguments : ∀ e ∈ m.endpointList, ∀ a ∈ e.2.argumentList, collides a.1 = false

/-- Rendering a module reads all references that the module declares. -/
theorem reads_moduleDeclarations (current : String) (source : String → String) (m : Module) :
    Emit.Reads (fun p => moduleDeclarations (converterOn current source p) m) (Accepts m)
      (Go.typeReferences m) := by
  have type (t : String × TypeDecl) :
      Emit.Reads (fun p => Emit.within ("type " ++ t.1) do
        Emit.ofExcept (t.2.validate none)
        typeDeclaration (converterOn current source p) t.1 t.2)
        (Succeeds (t.2.validate none)) t.2.references := by
    refine ((Emit.Reads.ofExcept_bind fun _ _ =>
      reads_typeDeclaration current source t.1 t.2).within _).of_iff (and_iff_left trivial)
        fun valid => ?_
    exact TypeDecl.mem_shownReferences_iff (TypeDecl.succeeds_validate_iff.mp valid.1)
  unfold moduleDeclarations
  refine ((Emit.Reads.mapM fun (e : String × ErrorDecl) _ =>
      ((reads_errorClass current source e.1 e.2).within ("error " ++ e.1)).bind_pure _).bind
        fun _ errors =>
    (Emit.Reads.mapM fun t _ => type t).bind fun _ types =>
    (reads_serviceDeclarations current source m).bind_pure _).of_iff ?_ fun _ r => ?_
  · exact ⟨fun ⟨errors, types, arguments⟩ => ⟨types, errors, arguments⟩,
      fun ⟨types, errors, arguments⟩ => ⟨errors, types, arguments⟩⟩
  · rw [Go.typeReferences_eq, List.append_assoc, List.mem_append, List.mem_append,
      List.mem_append, List.mem_append, or_left_comm]

section

variable {current : String} {source : String → String} {p : Project} {name : String}

theorem namedDeclarations_of_found {m : Module} (found : p.module? name = some m) :
    namedDeclarations (converterOn current source p) name =
      (moduleDeclarations (converterOn current source p) m).within ("module " ++ name) := by
  simp only [namedDeclarations, converterOn, found]

theorem namedDeclarations_of_unknown (unknown : p.module? name = none) :
    namedDeclarations (converterOn current source p) name = Emit.fail (.unknownModule name) := by
  simp only [namedDeclarations, converterOn, unknown]

theorem succeeds_namedDeclarations_iff (name : String) (im : Imports) :
    Succeeds (namedDeclarations (converterOn current source p) name im) ↔
      ∃ m, p.module? name = some m ∧ Accepts m ∧ ∀ r ∈ Go.typeReferences m, p.Converts r := by
  cases found : p.module? name with
  | none =>
      rw [namedDeclarations_of_unknown found]
      simp [Emit.fail]
  | some m =>
      rw [namedDeclarations_of_found found]
      simp only [Option.some.injEq, exists_eq_left']
      exact (((reads_moduleDeclarations current source m).within _) im).succeeds_iff p

/-- A file is rendered exactly if each of its modules is known and accepted, and all
their references convert. -/
theorem succeeds_fileDeclarations_iff {modules : List String} {im : Imports} :
    Succeeds (fileDeclarations (converterOn current source p) modules im) ↔
      ∀ name ∈ modules, ∃ m, p.module? name = some m ∧ Accepts m ∧
        ∀ r ∈ Go.typeReferences m, p.Converts r := by
  unfold fileDeclarations
  exact Emit.succeeds_mapM_iff succeeds_namedDeclarations_iff

end

end ApiCompiler.Python
