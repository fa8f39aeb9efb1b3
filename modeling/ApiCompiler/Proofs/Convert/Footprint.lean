import ApiCompiler.Proofs.Convert.Conversion

/-!
# What a computation reads of a project

A target walks through a module and converts the references it meets. `Reads` names
these references once for each function of a target: they are all that success
depends on besides the module, and all of the project that a result depends on.
-/

namespace ApiCompiler

open Fallible

variable {α β ι : Type} {condition goesOn : Prop} {references more : List String}

/-- A computation reads a project only through some references. It succeeds exactly
if a condition on the definitions holds and all of the references convert, and then
it has the same result on every project that declares the same types under their
names. -/
structure Reads (run : Project → Except Error α) (condition : Prop)
    (references : List String) : Prop where
  succeeds_iff (p : Project) : Succeeds (run p) ↔ condition ∧ ∀ r ∈ references, p.Converts r
  refines {p q : Project} : (∀ r ∈ references, p.AgreesOn q r) → Refines (run p) (run q)

namespace Reads

variable {run : Project → Except Error α}

/-- A computation that does not look at the project. -/
theorem const {x : Except Error α} (succeeds : Succeeds x ↔ condition) :
    Reads (fun _ => x) condition [] :=
  ⟨fun _ => by simpa using succeeds, fun _ => Refines.refl x⟩

theorem pure (a : α) : Reads (fun _ => Pure.pure a) True [] :=
  const (iff_of_true (succeeds_pure a) trivial)

theorem fail (e : Error) : Reads (fun _ => (.error e : Except Error α)) False [] :=
  const (iff_of_false (not_succeeds_error e) not_false)

/-- Of the references only their set matters, and that only if the condition holds. -/
theorem of_iff (reads : Reads run condition references) (same : condition ↔ goesOn)
    (members : condition → ∀ r, r ∈ references ↔ r ∈ more) : Reads run goesOn more := by
  refine ⟨fun p => ?_, fun {p q} agree a result => ?_⟩
  · rw [reads.succeeds_iff, ← same]
    refine and_congr_right fun holds => ?_
    simp only [members holds]
  · have holds : condition := ((reads.succeeds_iff p).mp ⟨a, result⟩).1
    exact reads.refines (fun r mem => agree r ((members holds r).mp mem)) a result

theorem bind {next : α → Project → Except Error β} (first : Reads run condition references)
    (second : condition → ∀ a, Reads (next a) goesOn more) :
    Reads (fun p => run p >>= fun a => next a p) (condition ∧ goesOn) (references ++ more) := by
  refine ⟨fun p => ?_, fun {p q} agree => ?_⟩
  · rw [List.forall_mem_append, and_and_and_comm, ← first.succeeds_iff]
    have after (a : α) (result : run p = .ok a) :
        Succeeds (next a p) ↔ goesOn ∧ ∀ r ∈ more, p.Converts r :=
      (second ((first.succeeds_iff p).mp ⟨a, result⟩).1 a).succeeds_iff p
    exact succeeds_bind_iff after
  · rw [List.forall_mem_append] at agree
    refine (first.refines agree.1).bind fun a result => ?_
    exact (second ((first.succeeds_iff p).mp ⟨a, result⟩).1 a).refines agree.2

theorem bind_pure (reads : Reads run condition references) (f : α → β) :
    Reads (fun p => run p >>= fun a => Pure.pure (f a)) condition references :=
  (reads.bind fun _ a => pure (f a)).of_iff (and_iff_left trivial) fun _ r => by
    rw [List.append_nil]

theorem map (reads : Reads run condition references) (f : α → β) :
    Reads (fun p => (run p).map f) condition references :=
  ⟨fun p => succeeds_map_iff.trans (reads.succeeds_iff p),
    fun agree => (reads.refines agree).map f⟩

theorem labelled (reads : Reads run condition references) (label : String) :
    Reads (fun p => labelled label (run p)) condition references :=
  ⟨fun p => succeeds_labelled_iff.trans (reads.succeeds_iff p),
    fun agree => (reads.refines agree).labelled label⟩

theorem mapM {each : ι → Project → Except Error β} {conditions : ι → Prop}
    {readBy : ι → List String} {as : List ι}
    (reads : ∀ a ∈ as, Reads (each a) (conditions a) (readBy a)) :
    Reads (fun p => as.mapM fun a => each a p) (∀ a ∈ as, conditions a) (as.flatMap readBy) := by
  refine ⟨fun p => ?_, fun {p q} agree => ?_⟩
  · rw [succeeds_mapM_iff, List.forall_mem_flatMap, ← forall₂_and]
    exact forall₂_congr fun a mem => (reads a mem).succeeds_iff p
  · rw [List.forall_mem_flatMap] at agree
    exact Refines.mapM fun a mem => (reads a mem).refines (agree a mem)

theorem ite {decision : Prop} [Decidable decision] {other : Project → Except Error α}
    (yes : Reads run condition references) (no : Reads other condition more) :
    Reads (fun p => if decision then run p else other p) condition
      (if decision then references else more) := by
  by_cases holds : decision
  · simpa only [holds, if_true] using yes
  · simpa only [holds, if_false] using no

/-- A conversion reads its reference. -/
theorem convert (backend : Backend α) (standard : backend.templates.Standard) (current : String)
    (source : String → String) (reference : String) :
    Reads (fun p => (Converter.convert ⟨p, current, backend, source⟩ reference).result) True
      [reference] := by
  refine ⟨fun p => ?_, fun {p q} agree => ?_⟩
  · rw [Converter.succeeds_convert_iff standard, true_and, List.forall_mem_singleton]
  · rw [List.forall_mem_singleton] at agree
    rw [Converter.convert_congr standard agree]
    exact Refines.refl _

end Reads

/-! ## Computations that collect imports -/

/-- A traversal succeeds exactly if every entry does, provided that the success of an
entry does not depend on the imports collected before. -/
theorem Emit.succeeds_mapM_iff {each : ι → Emit β} {succeeds : ι → Prop}
    (entry : ∀ a im, Succeeds (each a im) ↔ succeeds a) {as : List ι} {im : Imports} :
    Succeeds (as.mapM each im) ↔ ∀ a ∈ as, succeeds a := by
  induction as generalizing im with
  | nil => exact iff_of_true ⟨([], im), rfl⟩ (List.forall_mem_nil _)
  | cons a as ih =>
      have others (b : β) (im : Imports) :
          Succeeds ((as.mapM each >>= fun bs => pure (b :: bs)) im) ↔ ∀ a ∈ as, succeeds a := by
        rw [← ih]
        exact succeeds_bind_iff_left fun _ _ => succeeds_pure _
      rw [List.mapM_cons, List.forall_mem_cons, ← entry a im]
      exact succeeds_bind_iff fun result _ => others result.1 result.2

/-- A traversal has the results of another one if every entry has. -/
theorem Emit.refines_mapM {x y : ι → Emit β} (entry : ∀ a im, Refines (x a im) (y a im))
    (as : List ι) (im : Imports) : Refines (as.mapM x im) (as.mapM y im) := by
  induction as generalizing im with
  | nil => exact .refl _
  | cons a as ih =>
      rw [List.mapM_cons, List.mapM_cons]
      exact (entry a im).bind fun result _ => (ih result.2).bind fun _ _ => .refl _

/-- The results of a traversal are the results of its entries, each with the imports that were
collected before it. -/
theorem Emit.forall₂_of_mapM {each : ι → Emit β} {as : List ι} {bs : List β} {im im' : Imports}
    (run : as.mapM each im = .ok (bs, im')) :
    List.Forall₂ (fun a b => ∃ im im', each a im = .ok (b, im')) as bs := by
  induction as generalizing bs im with
  | nil =>
      cases run
      exact .nil
  | cons a as ih =>
      rw [List.mapM_cons] at run
      obtain ⟨⟨b, middle⟩, first, others⟩ := bind_eq_ok_iff.mp run
      obtain ⟨⟨more, last⟩, tail, all⟩ := bind_eq_ok_iff.mp others
      cases all
      exact .cons ⟨im, middle, first⟩ (ih tail)

/-- What can be told of every result of a traversal. -/
theorem Emit.map_eq_of_mapM {γ : Type} {each : ι → Emit β} {as : List ι} {bs : List β}
    {im im' : Imports} {f : β → γ} {g : ι → γ} (run : as.mapM each im = .ok (bs, im'))
    (entry : ∀ a b im im', each a im = .ok (b, im') → f b = g a) : bs.map f = as.map g := by
  have same := (forall₂_of_mapM run).imp fun a b ⟨im, im', done⟩ => entry a b im im' done
  exact map_eq_map_of_forall₂ same.flip

theorem Emit.of_ofExcept {x : Except Error α} {im im' : Imports} {a : α}
    (run : ofExcept x im = .ok (a, im')) : x = .ok a := by
  obtain ⟨b, result, same⟩ := map_eq_ok_iff.mp run
  cases same
  exact result

/-- With any imports collected before, a computation reads a project only through
some references. -/
def Emit.Reads (run : Project → Emit α) (condition : Prop) (references : List String) : Prop :=
  ∀ im, ApiCompiler.Reads (fun p => run p im) condition references

namespace Emit.Reads

variable {run : Project → Emit α}

theorem pure (a : α) : Reads (fun _ => Pure.pure a) True [] :=
  fun im => ApiCompiler.Reads.pure (a, im)

theorem needModule (source : String) : Reads (fun _ => needModule source) True [] :=
  fun im => ApiCompiler.Reads.pure ((), im.addModule source)

theorem need (source symbol : String) : Reads (fun _ => need source symbol) True [] :=
  fun im => ApiCompiler.Reads.pure ((), im.add source symbol)

theorem fail (e : Error) : Reads (fun _ => (fail e : Emit α)) False [] :=
  fun _ => ApiCompiler.Reads.fail e

theorem ofExcept {run : Project → Except Error α}
    (reads : ApiCompiler.Reads run condition references) :
    Reads (fun p => ofExcept (run p)) condition references :=
  fun im => reads.map fun a => (a, im)

theorem of_iff (reads : Reads run condition references) (same : condition ↔ goesOn)
    (members : condition → ∀ r, r ∈ references ↔ r ∈ more) : Reads run goesOn more :=
  fun im => (reads im).of_iff same members

theorem bind {next : α → Project → Emit β} (first : Reads run condition references)
    (second : condition → ∀ a, Reads (next a) goesOn more) :
    Reads (fun p => run p >>= fun a => next a p) (condition ∧ goesOn) (references ++ more) :=
  fun im => (first im).bind fun holds result => second holds result.1 result.2

/-- What follows a check depends on the checked value only. -/
theorem ofExcept_bind {x : Except Error α} {next : α → Project → Emit β}
    (second : ∀ a, x = .ok a → Reads (next a) goesOn more) :
    Reads (fun p => Emit.ofExcept x >>= fun a => next a p) (Succeeds x ∧ goesOn) more := by
  cases x with
  | error e =>
      refine (fail e).of_iff (iff_of_false not_false ?_) fun failed => failed.elim
      exact fun both => not_succeeds_error e both.1
  | ok a => exact (second a rfl).of_iff (and_iff_right (succeeds_ok a)).symm fun _ r => Iff.rfl

theorem bind_pure (reads : Reads run condition references) (f : α → β) :
    Reads (fun p => run p >>= fun a => Pure.pure (f a)) condition references :=
  fun im => (reads im).bind_pure fun result => (f result.1, result.2)

theorem within (reads : Reads run condition references) (label : String) :
    Reads (fun p => (run p).within label) condition references :=
  fun im => (reads im).labelled label

theorem mapM {each : ι → Project → Emit β} {conditions : ι → Prop} {readBy : ι → List String}
    {as : List ι} (reads : ∀ a ∈ as, Reads (each a) (conditions a) (readBy a)) :
    Reads (fun p => as.mapM fun a => each a p) (∀ a ∈ as, conditions a)
      (as.flatMap readBy) := by
  induction as with
  | nil => exact (pure []).of_iff (by simp) fun _ => by simp
  | cons a as ih =>
      have first := reads a List.mem_cons_self
      have others := ih fun b mem => reads b (List.mem_cons_of_mem a mem)
      simp only [List.mapM_cons]
      refine (first.bind fun _ b => others.bind fun _ bs => pure (b :: bs)).of_iff ?_ fun _ r => ?_
      · rw [and_true, List.forall_mem_cons]
      · rw [List.append_nil, List.flatMap_cons]

theorem ite {decision : Prop} [Decidable decision] {other : Project → Emit α}
    (yes : Reads run condition references) (no : Reads other condition more) :
    Reads (fun p => if decision then run p else other p) condition
      (if decision then references else more) := by
  by_cases holds : decision
  · simpa only [holds, if_true] using yes
  · simpa only [holds, if_false] using no

theorem convert (backend : Backend String) (standard : backend.templates.Standard)
    (current : String) (source : String → String) (also : Imports → Visit String → Imports)
    (reference : String) :
    Reads (fun p => convert ⟨p, current, backend, source⟩ also reference) True [reference] := by
  intro im
  refine ⟨fun p => ?_, fun {p q} agree => ?_⟩
  · dsimp only [Emit.convert]
    rw [succeeds_map_iff]
    exact (ApiCompiler.Reads.convert backend standard current source reference).succeeds_iff p
  · rw [List.forall_mem_singleton] at agree
    dsimp only [Emit.convert]
    rw [Converter.convert_congr standard agree]
    exact Refines.refl _

end Emit.Reads

end ApiCompiler
