import ApiCompiler.Proofs.Convert.Footprint
import ApiCompiler.Proofs.Convert.Agreement

/-!
# What can fail while code is emitted

What a computation that emits code can report, with one rule for each way to put such
computations together. A conversion reports that its reference is malformed or names no type,
and nothing else.
-/

namespace ApiCompiler

open Fallible

variable {α β ι T : Type} {P : Error → Prop}

/-- What is wrong with a reference to a type. -/
def Error.IsReferenceFault : Error → Prop
  | datatype _ _ | arity _ _ _ | unresolved _ | parametrised _ => True
  | _ => False

/-- A computation fails for causes of one sort only; labels do not count. -/
abbrev Blames (P : Error → Prop) (x : Except Error α) : Prop := FailsOnly (·.HasCause P) x

theorem Blames.error {e : Error} (sort : e.HasCause P) : Blames P (.error e : Except Error α) :=
  FailsOnly.error sort

theorem Blames.labelled {x : Except Error α} (blames : Blames P x) (label : String) :
    Blames P (labelled label x) :=
  FailsOnly.labelled blames fun _ caused => caused

theorem Blames.mono {Q : Error → Prop} {x : Except Error α} (blames : Blames P x)
    (weaker : ∀ e, P e → Q e) : Blames Q x :=
  FailsOnly.mono blames fun _ caused => caused.mono weaker

namespace Converter

variable {c : Converter T}

theorem Faults.isReferenceFault {node : Datatype} {e : Error} (faults : c.Faults node e) :
    e.HasCause Error.IsReferenceFault := by
  cases faults with
  | arity => trivial
  | parametrised => trivial
  | unresolved => trivial

theorem blames_convert (c : Converter T) (reference : String) :
    Blames Error.IsReferenceFault (c.convert reference).result := by
  cases read : Datatype.parse reference with
  | error e =>
      rw [convert_of_parse_error read]
      rw [Datatype.parse] at read
      split at read
      · exact nomatch read
      · cases read
        exact Blames.error trivial
  | ok d =>
      rw [convert_of_parse read]
      apply Blames.labelled
      intro e failed
      obtain ⟨_, _, _, -, -, faults⟩ :=
        failure?_convertDatatype_eq_some d (congrArg failure? failed)
      exact faults.isReferenceFault

end Converter

/-! ## Emitting code -/

/-- With any imports collected before, a computation fails for causes of one sort only. -/
def Emit.Blames (P : Error → Prop) (x : Emit α) : Prop := ∀ im, ApiCompiler.Blames P (x im)

namespace Emit.Blames

variable {x : Emit α}

theorem pure (a : α) : Blames P (Pure.pure a : Emit α) := fun im => FailsOnly.pure (a, im)

theorem needModule (source : String) : Blames P (needModule source) :=
  fun im => FailsOnly.pure ((), im.addModule source)

theorem need (source symbol : String) : Blames P (need source symbol) :=
  fun im => FailsOnly.pure ((), im.add source symbol)

theorem fail {e : Error} (sort : e.HasCause P) : Blames P (fail e : Emit α) :=
  fun _ => ApiCompiler.Blames.error sort

theorem ofExcept {x : Except Error α} (blames : ApiCompiler.Blames P x) :
    Blames P (ofExcept x) :=
  fun im => FailsOnly.map blames fun a => (a, im)

theorem bind {next : α → Emit β} (first : Blames P x) (second : ∀ a, Blames P (next a)) :
    Blames P (x >>= next) :=
  fun im => FailsOnly.bind (first im) fun result _ => second result.1 result.2

/-- What follows a check that succeeds depends on the checked value only. -/
theorem ofExcept_bind {x : Except Error α} {next : α → Emit β} (succeeds : Succeeds x)
    (second : ∀ a, x = .ok a → Blames P (next a)) : Blames P (Emit.ofExcept x >>= next) := by
  obtain ⟨a, rfl⟩ := succeeds
  exact second a rfl

theorem bind_pure (blames : Blames P x) (f : α → β) :
    Blames P (x >>= fun a => Pure.pure (f a)) :=
  blames.bind fun a => pure (f a)

theorem within (blames : Blames P x) (label : String) : Blames P (x.within label) :=
  fun im => (blames im).labelled label

theorem mapM {each : ι → Emit β} {as : List ι} (blames : ∀ a ∈ as, Blames P (each a)) :
    Blames P (as.mapM each) := by
  induction as with
  | nil => exact pure []
  | cons a as ih =>
      rw [List.mapM_cons]
      refine (blames a List.mem_cons_self).bind fun b => ?_
      exact (ih fun c mem => blames c (List.mem_cons_of_mem a mem)).bind_pure _

theorem ite {decision : Prop} [Decidable decision] {y : Emit α} (yes : Blames P x)
    (no : Blames P y) : Blames P (if decision then x else y) := by
  split
  · exact yes
  · exact no

/-- A computation that reads no reference and has no condition does not fail. -/
theorem of_reads {run : Project → Emit α} (reads : Emit.Reads run True []) (p : Project) :
    Blames P (run p) :=
  fun im => FailsOnly.of_succeeds (((reads im).succeeds_iff p).mpr ⟨trivial, nofun⟩)

theorem convert (references : ∀ e, e.IsReferenceFault → P e) (c : Converter String)
    (also : Imports → Visit String → Imports) (reference : String) :
    Blames P (convert c also reference) :=
  fun _ => FailsOnly.map ((c.blames_convert reference).mono references) _

end Emit.Blames

end ApiCompiler
