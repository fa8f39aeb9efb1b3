import ApiCompiler.Describe.Module
import ApiCompiler.Proofs.Convert.Footprint
import ApiCompiler.Proofs.Module.Valid

/-!
# What descriptions read of a project

For every function that describes a module: the references it converts, and the
condition on the module under which it succeeds. A type is described without regard to
its shape, so all its references are converted.
-/

namespace ApiCompiler

open Fallible

theorem TypeRef.reads_convert (module reference : String) :
    Reads (fun p => ((TypeRef.converter p module).convert reference).result) True [reference] :=
  .convert TypeRef.backend TypeRef.standard_templates module id reference

namespace ServiceDraft

theorem reads_describeArguments (module endpoint : String) (args : List (String × Argument)) :
    Reads (fun p => describeArguments (TypeRef.converter p module) endpoint args)
      (∀ a ∈ args, a.1 ≠ credentialsArgument) (args.map (·.2.type)) := by
  have argument (a : String × Argument) : Reads (fun p =>
      if a.1 == credentialsArgument then
        .error (.argument (.reservedName endpoint credentialsArgument))
      else do
        let type ← labelled (argumentLabel endpoint a.1)
          ((TypeRef.converter p module).convert a.2.type).result
        return (⟨a.1, a.2.kind, type, "", none⟩ : ArgumentDescription))
      (a.1 ≠ credentialsArgument) [a.2.type] := by
    by_cases reserved : a.1 = credentialsArgument
    · simp only [reserved, beq_self_eq_true, if_true]
      exact (Reads.fail _).of_iff (by simp) fun failed => failed.elim
    · simp only [beq_iff_eq, reserved, if_false]
      exact (((TypeRef.reads_convert module a.2.type).labelled _).bind_pure _).of_iff
        (iff_of_true trivial reserved) fun _ r => Iff.rfl
  unfold describeArguments
  refine (Reads.mapM fun a _ => argument a).of_iff Iff.rfl fun _ r => ?_
  rw [List.map_eq_flatMap]

theorem reads_describeResult (module name : String) (e : Endpoint) :
    Reads (fun p => describeResult (TypeRef.converter p module) name e) True
      (if e.result == "" then [] else [e.result]) := by
  unfold describeResult
  exact .ite (.pure none)
    (((TypeRef.reads_convert module e.result).labelled (returnLabel name)).map some)

theorem reads_describeEndpoint (module : String) (m : Module) (name : String) (e : Endpoint) :
    Reads (fun p => describeEndpoint (TypeRef.converter p module) m name e)
      (∀ a ∈ e.argumentList, a.1 ≠ credentialsArgument) e.references := by
  unfold describeEndpoint
  refine ((reads_describeArguments module name e.argumentList).bind fun _ args =>
    (reads_describeResult module name e).bind_pure _).of_iff ?_ fun _ r => Iff.rfl
  rw [and_true]

theorem reads_describeEndpoints (module : String) (m : Module) :
    Reads (fun p => m.endpointList.mapM fun (name, e) =>
        describeEndpoint (TypeRef.converter p module) m name e)
      (∀ e ∈ m.endpointList, ∀ a ∈ e.2.argumentList, a.1 ≠ credentialsArgument)
      (m.endpointList.flatMap fun e => e.2.references) :=
  .mapM fun e _ => reads_describeEndpoint module m e.1 e.2

end ServiceDraft

namespace ModuleDescription

theorem reads_describeFields (module : String) (fields : Option (OrderedMap Field)) :
    Reads (fun p => describeFields (TypeRef.converter p module) fields) True
      (fieldTypes fields) := by
  unfold describeFields
  refine (Reads.mapM fun f _ =>
    ((TypeRef.reads_convert module f.2.type).labelled ("field " ++ f.1)).bind_pure _).of_iff ?_
      fun _ r => ?_
  · simp
  · rw [fieldTypes, List.map_eq_flatMap]

theorem reads_describeBase (module name : String) (t : TypeDecl) :
    Reads (fun p => describeBase (TypeRef.converter p module) name t) True
      t.extends_.toList := by
  unfold describeBase
  cases t.extends_ with
  | none => exact .pure none
  | some base => exact ((TypeRef.reads_convert module base).labelled _).map some

theorem reads_describeType (module name : String) (t : TypeDecl) :
    Reads (fun p => describeType (TypeRef.converter p module) name t) True t.references := by
  unfold describeType
  refine ((reads_describeBase module name t).bind fun _ base =>
    ((reads_describeFields module t.fields).labelled ("type " ++ name)).bind fun _ fields =>
    (Reads.mapM fun (v : String × String) _ =>
      ((TypeRef.reads_convert module v.2).labelled _).bind_pure _).bind_pure _).of_iff ?_
      fun _ r => ?_
  · simp
  · rw [TypeDecl.references, List.append_assoc, List.map_eq_flatMap]

theorem reads_describeTypes (module : String) (m : Module) :
    Reads (fun p => m.typeList.mapM fun (name, t) =>
        describeType (TypeRef.converter p module) name t) True
      (m.typeList.flatMap fun t => t.2.references) :=
  (Reads.mapM fun t _ => reads_describeType module t.1 t.2).of_iff (by simp) fun _ r => Iff.rfl

theorem reads_describeErrors (module : String) (m : Module) :
    Reads (fun p => m.errorList.mapM fun (name, e) => do
        let fields ← labelled ("error " ++ name)
          (describeFields (TypeRef.converter p module) e.fields)
        return (⟨name, e.effectiveCode, fields, e.docs⟩ : ErrorDescription)) True
      (m.errorList.flatMap fun e => fieldTypes e.2.fields) :=
  (Reads.mapM fun e _ =>
    ((reads_describeFields module e.2.fields).labelled ("error " ++ e.1)).bind_pure _).of_iff
      (by simp) fun _ r => Iff.rfl

end ModuleDescription

end ApiCompiler
