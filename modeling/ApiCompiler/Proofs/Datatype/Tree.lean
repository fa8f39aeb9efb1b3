import ApiCompiler.Datatype
import Mathlib.Data.List.Basic

/-!
# Reference trees

Induction over a reference and its parameters, the list of its nodes, and
structural equality.
-/

namespace ApiCompiler.Datatype

/-- Induction over a reference: a plain name, and a generic type whose
parameters already have the property. -/
@[elab_as_elim, induction_eliminator]
theorem induction {motive : Datatype → Prop}
    (plain : ∀ name, motive (mk name none))
    (generic : ∀ name params, (∀ p ∈ params, motive p) → motive (mk name (some params)))
    (d : Datatype) : motive d :=
  match d with
  | mk name none => plain name
  | mk name (some params) =>
      generic name params fun p mem =>
        have : sizeOf p < sizeOf params := List.sizeOf_lt_of_mem mem
        induction plain generic p
termination_by sizeOf d
decreasing_by
  simp only [mk.sizeOf_spec, Option.some.sizeOf_spec]
  omega

@[simp]
theorem name_mk (name : String) (params : Option (List Datatype)) : (mk name params).name = name :=
  rfl

@[simp]
theorem params?_mk (name : String) (params : Option (List Datatype)) :
    (mk name params).params? = params :=
  rfl

@[simp]
theorem params_mk_none (name : String) : (mk name none).params = [] :=
  rfl

@[simp]
theorem params_mk_some (name : String) (params : List Datatype) :
    (mk name (some params)).params = params :=
  rfl

/-- Induction over both forms at once: a node whose parameters already have the
property, if there are any. -/
@[elab_as_elim]
theorem induction_params {motive : Datatype → Prop}
    (node : ∀ d : Datatype, (∀ p ∈ d.params, motive p) → motive d) (d : Datatype) : motive d := by
  induction d with
  | plain name => exact node _ fun p mem => nomatch mem
  | generic name params ih => exact node _ ih

/-- The nodes of several references are those of each, one after the other. -/
theorem nodesOf_eq_flatMap (ds : List Datatype) : nodesOf ds = ds.flatMap nodes := by
  induction ds with
  | nil => rfl
  | cons d rest ih => rw [nodesOf, ih, List.flatMap_cons]

/-- A node stands before the nodes of its parameters. -/
theorem nodes_eq_cons (d : Datatype) : d.nodes = d :: nodesOf d.params := by
  cases d with
  | mk name params =>
      cases params with
      | none => rfl
      | some params => rfl

theorem mem_nodesOf_iff {node : Datatype} {ds : List Datatype} :
    node ∈ nodesOf ds ↔ ∃ d ∈ ds, node ∈ d.nodes := by
  rw [nodesOf_eq_flatMap, List.mem_flatMap]

theorem self_mem_nodes (d : Datatype) : d ∈ d.nodes := by
  rw [nodes_eq_cons]
  exact List.mem_cons_self

/-- Two lists are equal as soon as the members of the first are told apart from
every other reference. -/
theorem equalAll_eq_true_iff {ds : List Datatype}
    (tells : ∀ d ∈ ds, ∀ e, d.equal e = true ↔ d = e) (es : List Datatype) :
    equalAll ds es = true ↔ ds = es := by
  induction ds generalizing es with
  | nil => cases es <;> simp [equalAll]
  | cons d rest ih =>
      cases es with
      | nil => simp [equalAll]
      | cons e es =>
          rw [equalAll, Bool.and_eq_true, List.cons.injEq,
            tells d List.mem_cons_self e,
            ih (fun p mem => tells p (List.mem_cons_of_mem d mem)) es]

/-- `equal` decides equality of references. -/
theorem equal_eq_true_iff (d e : Datatype) : d.equal e = true ↔ d = e := by
  induction d generalizing e with
  | plain name =>
      rcases e with ⟨other, _ | params⟩ <;> simp [equal]
  | generic name params ih =>
      rcases e with ⟨other, _ | others⟩
      · simp [equal]
      · rw [equal, Bool.and_eq_true, beq_iff_eq, equalAll_eq_true_iff ih others]
        simp

/-! ## Folds

The bottom-up fold of a reference in any monad, and the order in which it meets
the nodes: the parameters from left to right, then the node they belong to.
-/

section Fold

variable {β : Type} {m : Type → Type} [Monad m]

mutual

/-- The bottom-up fold of a tree: the parameters from left to right, then the
node with their results. -/
def foldM (f : Datatype → List β → m β) : Datatype → m β
  | mk name none => f (mk name none) []
  | mk name (some params) => do
    let values ← foldAllM f params
    f (mk name (some params)) values

/-- The folds of several trees from left to right. -/
def foldAllM (f : Datatype → List β → m β) : List Datatype → m (List β)
  | [] => return []
  | d :: rest => do
    let value ← foldM f d
    let values ← foldAllM f rest
    return value :: values

end

mutual

/-- The nodes of a tree, each behind the nodes of its parameters. -/
def postorder : Datatype → List Datatype
  | mk name none => [mk name none]
  | mk name (some params) => postorderOf params ++ [mk name (some params)]

/-- The nodes of several trees in this order. -/
def postorderOf : List Datatype → List Datatype
  | [] => []
  | d :: rest => d.postorder ++ postorderOf rest

end

theorem postorder_eq_append (d : Datatype) : d.postorder = postorderOf d.params ++ [d] := by
  rcases d with ⟨name, _ | params⟩ <;> rfl

/-- A traversal meets the same nodes in either order. -/
theorem postorder_perm_nodes (d : Datatype) : d.postorder.Perm d.nodes := by
  induction d with
  | plain name => exact List.Perm.refl _
  | generic name params ih =>
      have parameters : (postorderOf params).Perm (nodesOf params) := by
        induction params with
        | nil => exact List.Perm.refl _
        | cons p rest more =>
            rw [postorderOf, nodesOf]
            exact (ih p List.mem_cons_self).append
              (more fun q mem => ih q (List.mem_cons_of_mem p mem))
      rw [postorder, nodes]
      exact (parameters.append_right _).trans (List.perm_append_singleton _ _)

variable {S : Type}

/-- A fold with a state and failure reaches a result through the results of the
parameters. -/
theorem foldM_eq_some_iff {f : Datatype → List β → StateT S Option β} {d : Datatype} {s : S}
    {r : β × S} :
    d.foldM f s = some r ↔
      ∃ values middle, foldAllM f d.params s = some (values, middle) ∧
        f d values middle = some r := by
  rcases d with ⟨name, _ | params⟩
  · constructor
    · intro result
      exact ⟨[], s, rfl, result⟩
    · rintro ⟨values, middle, start, result⟩
      cases start
      exact result
  · rw [foldM, params_mk_some]
    change (foldAllM f params s).bind (fun x => f (mk name (some params)) x.1 x.2) = some r ↔ _
    rw [Option.bind_eq_some_iff, Prod.exists]

theorem foldAllM_cons_eq_some_iff {f : Datatype → List β → StateT S Option β} {d : Datatype}
    {rest : List Datatype} {s : S} {r : List β × S} :
    foldAllM f (d :: rest) s = some r ↔
      ∃ value middle values, d.foldM f s = some (value, middle) ∧
        foldAllM f rest middle = some (values, r.2) ∧ r.1 = value :: values := by
  rw [foldAllM]
  change (d.foldM f s).bind (fun x =>
    (foldAllM f rest x.2).bind fun y => some (x.1 :: y.1, y.2)) = some r ↔ _
  rw [Option.bind_eq_some_iff]
  constructor
  · rintro ⟨⟨value, middle⟩, first, more⟩
    obtain ⟨⟨values, last⟩, others, result⟩ := Option.bind_eq_some_iff.mp more
    cases result
    exact ⟨value, middle, values, first, others, rfl⟩
  · rintro ⟨value, middle, values, first, others, eq⟩
    refine ⟨(value, middle), first, Option.bind_eq_some_iff.mpr ⟨(values, r.2), others, ?_⟩⟩
    exact congrArg some (Prod.ext eq.symm rfl)

end Fold

end ApiCompiler.Datatype
