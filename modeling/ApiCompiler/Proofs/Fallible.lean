import ApiCompiler.Error
import Mathlib.Data.List.Forall2

/-!
# Computations that may fail

What it takes for a composed computation in `Except` to return a value, when one
computation returns whatever another one does, and with which errors a computation
can fail.
-/

namespace ApiCompiler.Fallible

universe u v w

variable {ε : Type u} {α : Type v} {β : Type v}

theorem map_eq_ok_iff {x : Except ε α} {f : α → β} {b : β} :
    x.map f = .ok b ↔ ∃ a, x = .ok a ∧ f a = b := by
  cases x with
  | error e => simp [Except.map]
  | ok a => simp [Except.map]

theorem toOption_eq_some_iff {x : Except ε α} {a : α} : x.toOption = some a ↔ x = .ok a := by
  cases x with
  | error e => simp [Except.toOption]
  | ok a => simp [Except.toOption]

theorem bind_eq_ok_iff {x : Except ε α} {f : α → Except ε β} {b : β} :
    (x >>= f) = .ok b ↔ ∃ a, x = .ok a ∧ f a = .ok b := by
  cases x with
  | error e => simp [bind, Except.bind]
  | ok a => simp [bind, Except.bind]

/-- The value that is made of the result of one computation. -/
theorem bind_pure_eq_ok_iff {x : Except ε α} {f : α → β} {b : β} :
    (x >>= fun a => pure (f a)) = .ok b ↔ ∃ a, x = .ok a ∧ b = f a := by
  rw [bind_eq_ok_iff]
  refine exists_congr fun a => and_congr_right fun _ => ?_
  exact (Except.ok.injEq _ _).to_iff.trans eq_comm

theorem bind_eq_error_iff {x : Except ε α} {f : α → Except ε β} {e : ε} :
    (x >>= f) = .error e ↔ x = .error e ∨ ∃ a, x = .ok a ∧ f a = .error e := by
  cases x with
  | error e => simp [bind, Except.bind]
  | ok a => simp [bind, Except.bind]

/-- A traversal succeeds exactly if every entry does, and it returns the results
in order. -/
theorem mapM_eq_ok_iff {ι : Type w} {f : ι → Except ε β} {as : List ι} {bs : List β} :
    as.mapM f = .ok bs ↔ List.Forall₂ (fun a b => f a = .ok b) as bs := by
  induction as generalizing bs with
  | nil =>
      rw [List.mapM_nil, List.forall₂_nil_left_iff]
      exact ⟨fun result => (Except.ok.inj result).symm, fun empty => congrArg _ empty.symm⟩
  | cons a as ih =>
      rw [List.mapM_cons, bind_eq_ok_iff, List.forall₂_cons_left_iff]
      constructor
      · rintro ⟨b, first, rest⟩
        obtain ⟨more, tail, result⟩ := bind_eq_ok_iff.mp rest
        exact ⟨b, more, first, ih.mp tail, (Except.ok.inj result).symm⟩
      · rintro ⟨b, more, first, tail, rfl⟩
        exact ⟨b, first, bind_eq_ok_iff.mpr ⟨more, ih.mpr tail, rfl⟩⟩

/-- The members of lists that are related member by member are related. -/
theorem mem_of_forall₂ {ι : Type w} {R : ι → β → Prop} {as : List ι} {bs : List β}
    (related : List.Forall₂ R as bs) :
    (∀ a ∈ as, ∃ b ∈ bs, R a b) ∧ ∀ b ∈ bs, ∃ a ∈ as, R a b := by
  induction related with
  | nil => exact ⟨nofun, nofun⟩
  | cons first _ ih =>
      refine ⟨List.forall_mem_cons.mpr ⟨⟨_, List.mem_cons_self, first⟩, fun a mem => ?_⟩,
        List.forall_mem_cons.mpr ⟨⟨_, List.mem_cons_self, first⟩, fun b mem => ?_⟩⟩
      · obtain ⟨b, inside, result⟩ := ih.1 a mem
        exact ⟨b, List.mem_cons_of_mem _ inside, result⟩
      · obtain ⟨a, inside, result⟩ := ih.2 b mem
        exact ⟨a, List.mem_cons_of_mem _ inside, result⟩

/-- What can be told alike of the members of two lists is told alike of the lists. -/
theorem map_eq_map_of_forall₂ {ι : Type w} {γ : Type*} {f : ι → γ} {g : β → γ} {as : List ι}
    {bs : List β} (related : List.Forall₂ (fun a b => f a = g b) as bs) : as.map f = bs.map g := by
  rwa [← List.forall₂_eq_eq_eq, List.forall₂_map_left_iff, List.forall₂_map_right_iff]

/-- The results of a traversal come from its entries, one from each. -/
theorem mem_of_mapM_eq_ok {ι : Type w} {f : ι → Except ε β} {as : List ι} {bs : List β}
    (result : as.mapM f = .ok bs) :
    (∀ a ∈ as, ∃ b ∈ bs, f a = .ok b) ∧ ∀ b ∈ bs, ∃ a ∈ as, f a = .ok b :=
  mem_of_forall₂ (mapM_eq_ok_iff.mp result)

theorem labelled_eq_ok_iff {γ : Type} {label : String} {x : Except Error γ} {c : γ} :
    labelled label x = .ok c ↔ x = .ok c := by
  cases x with
  | error e => simp [labelled]
  | ok c => simp [labelled]

theorem labelled_eq_error_iff {γ : Type} {label : String} {x : Except Error γ} {e : Error} :
    labelled label x = .error e ↔ ∃ cause, x = .error cause ∧ e = .within label cause := by
  cases x with
  | error cause => simp [labelled, eq_comm]
  | ok c => simp [labelled]

/-! ## Success -/

/-- A computation returns a value. -/
def Succeeds (x : Except ε α) : Prop := ∃ a, x = .ok a

@[simp]
theorem succeeds_ok (a : α) : Succeeds (.ok a : Except ε α) :=
  ⟨a, rfl⟩

@[simp]
theorem succeeds_pure (a : α) : Succeeds (pure a : Except ε α) :=
  ⟨a, rfl⟩

@[simp]
theorem not_succeeds_error (e : ε) : ¬Succeeds (.error e : Except ε α) :=
  fun ⟨_, eq⟩ => nomatch eq

theorem not_succeeds_iff {x : Except ε α} : ¬Succeeds x ↔ ∃ e, x = .error e := by
  cases x with
  | error e => simp
  | ok a => simp

instance (x : Except ε α) : Decidable (Succeeds x) :=
  match x with
  | .ok a => .isTrue (succeeds_ok a)
  | .error e => .isFalse (not_succeeds_error e)

@[simp]
theorem succeeds_labelled_iff {γ : Type} {label : String} {x : Except Error γ} :
    Succeeds (labelled label x) ↔ Succeeds x :=
  exists_congr fun _ => labelled_eq_ok_iff

@[simp]
theorem succeeds_map_iff {x : Except ε α} {f : α → β} : Succeeds (x.map f) ↔ Succeeds x := by
  cases x with
  | error e => simp [Except.map]
  | ok a => simp [Except.map]

/-- A composed computation succeeds exactly if both parts do, provided that the
success of the second part does not depend on the value of the first. -/
theorem succeeds_bind_iff {x : Except ε α} {f : α → Except ε β} {goesOn : Prop}
    (next : ∀ a, x = .ok a → (Succeeds (f a) ↔ goesOn)) :
    Succeeds (x >>= f) ↔ Succeeds x ∧ goesOn := by
  cases x with
  | error e =>
      constructor
      · intro result
        exact absurd result (not_succeeds_error e)
      · rintro ⟨result, -⟩
        exact absurd result (not_succeeds_error e)
  | ok a =>
      have step := next a rfl
      exact ⟨fun result => ⟨⟨a, rfl⟩, step.mp result⟩, fun both => step.mpr both.2⟩

/-- What never fails behind a computation makes no difference. -/
theorem succeeds_bind_iff_left {x : Except ε α} {f : α → Except ε β}
    (next : ∀ a, x = .ok a → Succeeds (f a)) : Succeeds (x >>= f) ↔ Succeeds x :=
  (succeeds_bind_iff fun a result => iff_of_true (next a result) trivial).trans
    (and_iff_left trivial)

theorem succeeds_mapM_iff {ι : Type w} {f : ι → Except ε β} {as : List ι} :
    Succeeds (as.mapM f) ↔ ∀ a ∈ as, Succeeds (f a) := by
  induction as with
  | nil => simp
  | cons a as ih =>
      have others (b : β) : Succeeds (as.mapM f >>= fun bs => pure (b :: bs)) ↔
          ∀ a ∈ as, Succeeds (f a) := by
        rw [succeeds_bind_iff_left fun _ _ => succeeds_pure _, ih]
      rw [List.mapM_cons, succeeds_bind_iff fun b _ => others b, List.forall_mem_cons]

theorem succeeds_forM_iff {ι : Type w} {f : ι → Except ε PUnit} {as : List ι} :
    Succeeds (as.forM f) ↔ ∀ a ∈ as, Succeeds (f a) := by
  induction as with
  | nil => simp
  | cons a as ih =>
      change Succeeds (f a >>= fun _ => as.forM f) ↔ _
      rw [succeeds_bind_iff fun _ _ => ih, List.forall_mem_cons]

/-! ## Failure -/

/-- The error with which a computation fails, if it does. -/
def failure? : Except ε α → Option ε
  | .ok _ => none
  | .error e => some e

@[simp]
theorem failure?_ok (a : α) : failure? (.ok a : Except ε α) = none :=
  rfl

@[simp]
theorem failure?_error (e : ε) : failure? (.error e : Except ε α) = some e :=
  rfl

theorem failure?_eq_none_iff {x : Except ε α} : failure? x = none ↔ Succeeds x := by
  cases x with
  | error e => simp
  | ok a => simp

theorem failure?_map (x : Except ε α) (f : α → β) : failure? (x.map f) = failure? x := by
  cases x with
  | error e => rfl
  | ok a => rfl

theorem failure?_labelled {γ : Type} (label : String) (x : Except Error γ) :
    failure? (labelled label x) = (failure? x).map (.within label) := by
  cases x with
  | error e => rfl
  | ok c => rfl

/-! ## Refinement -/

/-- Whatever the first computation returns, the second one returns too. -/
def Refines (x y : Except ε α) : Prop := ∀ a, x = .ok a → y = .ok a

theorem Refines.refl (x : Except ε α) : Refines x x := fun _ result => result

theorem Refines.bind {x y : Except ε α} {f g : α → Except ε β} (first : Refines x y)
    (next : ∀ a, x = .ok a → Refines (f a) (g a)) : Refines (x >>= f) (y >>= g) := by
  intro b result
  obtain ⟨a, start, last⟩ := bind_eq_ok_iff.mp result
  exact bind_eq_ok_iff.mpr ⟨a, first a start, next a start b last⟩

theorem Refines.map {x y : Except ε α} (first : Refines x y) (f : α → β) :
    Refines (x.map f) (y.map f) := by
  intro b result
  obtain ⟨a, start, last⟩ := map_eq_ok_iff.mp result
  exact map_eq_ok_iff.mpr ⟨a, first a start, last⟩

theorem Refines.mapM {ι : Type w} {f g : ι → Except ε β} {as : List ι}
    (each : ∀ a ∈ as, Refines (f a) (g a)) : Refines (as.mapM f) (as.mapM g) := by
  induction as with
  | nil => exact Refines.refl _
  | cons a as ih =>
      rw [List.mapM_cons, List.mapM_cons]
      refine (each a List.mem_cons_self).bind fun b _ => ?_
      exact (ih fun c mem => each c (List.mem_cons_of_mem a mem)).bind fun _ _ => Refines.refl _

theorem Refines.labelled {γ : Type} {x y : Except Error γ} (inner : Refines x y)
    (label : String) : Refines (labelled label x) (labelled label y) := fun c result =>
  labelled_eq_ok_iff.mpr (inner c (labelled_eq_ok_iff.mp result))

/-! ## Sorts of errors -/

/-- A computation fails with errors of one sort only. -/
def FailsOnly (P : ε → Prop) (x : Except ε α) : Prop := ∀ e, x = .error e → P e

namespace FailsOnly

variable {P Q : ε → Prop}

theorem ok (a : α) : FailsOnly P (.ok a : Except ε α) := nofun

theorem pure (a : α) : FailsOnly P (Pure.pure a : Except ε α) := ok a

theorem error {e : ε} (sort : P e) : FailsOnly P (.error e : Except ε α) := by
  rintro _ ⟨⟩
  exact sort

theorem mono {x : Except ε α} (fails : FailsOnly P x) (weaker : ∀ e, P e → Q e) : FailsOnly Q x :=
  fun e failed => weaker e (fails e failed)

theorem of_succeeds {x : Except ε α} (succeeds : Succeeds x) : FailsOnly P x := by
  obtain ⟨a, rfl⟩ := succeeds
  exact ok a

theorem bind {x : Except ε α} {f : α → Except ε β} (first : FailsOnly P x)
    (next : ∀ a, x = .ok a → FailsOnly P (f a)) : FailsOnly P (x >>= f) := by
  intro e failed
  rcases bind_eq_error_iff.mp failed with failed | ⟨a, result, failed⟩
  · exact first e failed
  · exact next a result e failed

theorem map {x : Except ε α} (fails : FailsOnly P x) (f : α → β) : FailsOnly P (x.map f) := by
  cases x with
  | error e => exact error (fails e rfl)
  | ok a => exact ok (f a)

theorem mapM {ι : Type w} {f : ι → Except ε β} {as : List ι}
    (each : ∀ a ∈ as, FailsOnly P (f a)) : FailsOnly P (as.mapM f) := by
  induction as with
  | nil => exact pure []
  | cons a as ih =>
      rw [List.mapM_cons]
      refine (each a List.mem_cons_self).bind fun b _ => ?_
      exact (ih fun c mem => each c (List.mem_cons_of_mem a mem)).bind fun _ _ => pure _

theorem forM {ι : Type w} {f : ι → Except ε PUnit} {as : List ι}
    (each : ∀ a ∈ as, FailsOnly P (f a)) : FailsOnly P (as.forM f) := by
  induction as with
  | nil => exact pure PUnit.unit
  | cons a as ih =>
      exact (each a List.mem_cons_self).bind fun _ _ =>
        ih fun c mem => each c (List.mem_cons_of_mem a mem)

theorem labelled {γ : Type} {P : Error → Prop} {x : Except Error γ} (fails : FailsOnly P x)
    {label : String} (inside : ∀ e, P e → P (.within label e)) :
    FailsOnly P (labelled label x) := by
  intro e failed
  obtain ⟨cause, inner, rfl⟩ := labelled_eq_error_iff.mp failed
  exact inside cause (fails cause inner)

end FailsOnly

end ApiCompiler.Fallible

/-! ## Causes -/

namespace ApiCompiler.Error

variable {P Q : Error → Prop}

/-- Behind its labels an error is of a sort, and no class was added to it. -/
def HasCause (P : Error → Prop) : Error → Prop
  | within _ e => HasCause P e
  | classified _ _ => False
  | e => P e

/-- An error belongs to the class of its cause and to no other one. -/
theorem HasCause.exists_isA_iff {e : Error} (caused : e.HasCause P) :
    ∃ cause, P cause ∧ ∀ kind, e.isA kind ↔ cause.ownClass = some kind := by
  induction e with
  | within label e ih => exact ih caused
  | classified kind e => exact caused.elim
  | _ => exact ⟨_, caused, fun kind => beq_iff_eq⟩

theorem HasCause.mono {e : Error} (caused : e.HasCause P) (weaker : ∀ e, P e → Q e) :
    e.HasCause Q := by
  induction e with
  | within label e ih => exact ih caused
  | classified kind e => exact caused.elim
  | _ => exact weaker _ caused

/-- An error whose cause has at most a class of definition faults ends up in exactly one class:
that of its cause, or else that of invalid configurations. -/
theorem HasCause.isA_orInvalidConfig_iff {e : Error} {kinds : List ErrorClass}
    (known : kinds ⊆ ErrorClass.definitionClasses)
    (caused : e.HasCause fun cause => ∀ kind ∈ cause.ownClass, kind ∈ kinds) :
    ∃ kind ∈ .invalidConfig :: kinds, ∀ other, e.orInvalidConfig.isA other ↔ other = kind := by
  obtain ⟨cause, among, classes⟩ := caused.exists_isA_iff
  unfold orInvalidConfig
  cases own : cause.ownClass with
  | none =>
      have without (kind : ErrorClass) : e.isA kind = false := by
        rw [← Bool.not_eq_true, classes, own]
        exact nofun
      rw [if_neg (by simp [without])]
      refine ⟨.invalidConfig, List.mem_cons_self, fun other => ?_⟩
      rw [isA, without, Bool.or_false, beq_iff_eq, eq_comm]
  | some kind =>
      have member : kind ∈ kinds := among kind own
      rw [if_pos (List.any_eq_true.mpr ⟨kind, known member, (classes kind).mpr own⟩)]
      refine ⟨kind, List.mem_cons_of_mem _ member, fun other => ?_⟩
      rw [classes, own, Option.some.injEq, eq_comm]

end ApiCompiler.Error
