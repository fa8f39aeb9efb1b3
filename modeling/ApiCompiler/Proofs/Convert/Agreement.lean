import ApiCompiler.Proofs.Convert.Conversion

/-!
# What targets agree on

Two targets walk the same tree. If what they make of a node is related whenever what
they made of its parameters is, then what they make of a reference is related. A conversion
that fails reports the first node that it cannot convert. Which node that is and what is
reported of it depends on the project and on the numbers of parameters of the builtin types. All
targets give these the same numbers, so they report the same error.
-/

namespace ApiCompiler

open Fallible

/-! ## Related results -/

variable {S T : Type}

/-- Two targets with the same builtin types keep a relation at every node: for a builtin
type with related parameters, and for a reference to a custom type. -/
structure Backend.Agree (related : S → T → Prop) (a : Backend S) (b : Backend T) : Prop where
  standard : a.templates.Standard
  standard' : b.templates.Standard
  render {name template template' : String} {xs : List S} {ys : List T} :
    a.templates.get? name = some template → b.templates.get? name = some template' →
      xs.length = Templates.arityOf template → List.Forall₂ related xs ys →
      related (a.render name template xs) (b.render name template' ys)
  reference (loc : TypeLocator) : related (a.reference loc) (b.reference loc)

namespace Converter

variable {p : Project} {current current' : String} {a : Backend S} {b : Backend T}
variable {source source' : String → String} {related : S → T → Prop}

theorem view_related (agree : a.Agree related b) {d : Datatype} {xs : List S} {ys : List T}
    (admits : Admits ⟨p, current, a, source⟩ d) (length : xs.length = d.params.length)
    (params : List.Forall₂ related xs ys)
    {v : Visit S} (shown : view ⟨p, current, a, source⟩ d xs = some v)
    {w : Visit T} (shown' : view ⟨p, current', b, source'⟩ d ys = some w) :
    related v.rendered w.rendered := by
  have tables := (agree.standard.map_get? d.name).trans (agree.standard'.map_get? d.name).symm
  rw [view] at shown shown'
  dsimp only at shown shown'
  rw [Admits] at admits
  dsimp only at admits
  cases found : a.templates.get? d.name with
  | some template =>
      rw [found] at tables shown admits
      obtain ⟨template', found', -⟩ := Option.map_eq_some_iff.mp tables.symm
      rw [found'] at shown'
      cases shown
      cases shown'
      exact agree.render found found' (length.trans admits) params
  | none =>
      rw [found] at tables shown
      rw [Option.map_eq_none_iff.mp tables.symm] at shown'
      obtain ⟨loc, located, rfl⟩ := Option.map_eq_some_iff.mp shown
      obtain ⟨loc', located', rfl⟩ := Option.map_eq_some_iff.mp shown'
      cases located.symm.trans located'
      exact agree.reference loc

theorem resolveAll_related {ds : List Datatype}
    (each : ∀ d ∈ ds, ∀ {seen before : List (Visit S)} {seen' before' : List (Visit T)} {x y},
      resolve ⟨p, current, a, source⟩ listing d before = (.ok x, seen) →
        resolve ⟨p, current', b, source'⟩ listing d before' = (.ok y, seen') → related x y)
    {seen before : List (Visit S)} {seen' before' : List (Visit T)} {xs : List S} {ys : List T}
    (left : resolveAll ⟨p, current, a, source⟩ listing ds before = (.ok xs, seen))
    (right : resolveAll ⟨p, current', b, source'⟩ listing ds before' = (.ok ys, seen')) :
    xs.length = ds.length ∧ List.Forall₂ related xs ys := by
  induction ds generalizing before before' xs ys with
  | nil =>
      cases left
      cases right
      exact ⟨rfl, .nil⟩
  | cons d ds ih =>
      obtain ⟨x, middle, more, first, others, rfl⟩ := resolveAll_cons_eq_ok_iff.mp left
      obtain ⟨y, middle', more', first', others', rfl⟩ := resolveAll_cons_eq_ok_iff.mp right
      obtain ⟨length, params⟩ :=
        ih (fun d mem => each d (List.mem_cons_of_mem _ mem)) others others'
      exact ⟨congrArg (· + 1) length, .cons (each d List.mem_cons_self first first') params⟩

theorem resolve_related (agree : a.Agree related b) {d : Datatype}
    {seen before : List (Visit S)} {seen' before' : List (Visit T)} {x : S} {y : T}
    (left : resolve ⟨p, current, a, source⟩ listing d before = (.ok x, seen))
    (right : resolve ⟨p, current', b, source'⟩ listing d before' = (.ok y, seen')) :
    related x y := by
  induction d using Datatype.induction_params generalizing before seen before' seen' x y with
  | node d ih =>
      obtain ⟨admits, xs, middle, params, completed⟩ := resolve_eq_ok_iff.mp left
      obtain ⟨-, ys, middle', params', completed'⟩ := resolve_eq_ok_iff.mp right
      obtain ⟨v, shown, answer⟩ := complete_eq_some_iff.mp completed
      obtain ⟨w, shown', answer'⟩ := complete_eq_some_iff.mp completed'
      cases answer
      cases answer'
      obtain ⟨length, each⟩ :=
        resolveAll_related (fun param mem _ _ _ _ _ _ => ih param mem) params params'
      exact view_related agree admits length each shown shown'

/-- What two targets make of one reference is related. -/
theorem convert_related (agree : a.Agree related b) {reference : String} {x : S} {y : T}
    (left : (convert ⟨p, current, a, source⟩ reference).result = .ok x)
    (right : (convert ⟨p, current', b, source'⟩ reference).result = .ok y) : related x y := by
  obtain ⟨d, read, converted⟩ := convert_result_eq_ok_iff.mp left
  obtain ⟨d', read', converted'⟩ := convert_result_eq_ok_iff.mp right
  cases read.symm.trans read'
  exact resolve_related agree (Prod.ext converted rfl) (Prod.ext converted' rfl)

end Converter

end ApiCompiler

namespace ApiCompiler.Converter

open Fallible

variable {S T : Type} {c : Converter S} {other : Converter T} {d : Datatype} {e e' : Error}

/-! ## The first fault -/

theorem Faults.not_admits (faults : c.Faults d e) : ¬c.Admits d :=
  not_admits_iff.mpr ⟨e, faults⟩

/-- A node has at most one fault. -/
theorem Faults.unique (first : c.Faults d e) (second : c.Faults d e') : e = e' := by
  have reported : c.resolve listing d [] = (.error e, []) := resolve_of_faults first []
  rw [resolve_of_faults second []] at reported
  cases reported
  rfl

theorem firstFault_cons_iff {rest : List Datatype} :
    c.FirstFault (d :: rest) e ↔ c.Faults d e ∨ c.Admits d ∧ c.FirstFault rest e := by
  constructor
  · rintro ⟨before, node, after, split, admitted, faults⟩
    cases before with
    | nil =>
        obtain ⟨rfl, rfl⟩ := List.cons.inj split
        exact .inl faults
    | cons b before =>
        obtain ⟨rfl, rfl⟩ := List.cons.inj split
        rw [List.forall_mem_cons] at admitted
        exact .inr ⟨admitted.1, before, node, after, rfl, admitted.2, faults⟩
  · rintro (faults | ⟨admits, first⟩)
    · exact ⟨[], d, rest, rfl, List.forall_mem_nil _, faults⟩
    · exact first.append_left (List.forall_mem_singleton.mpr admits)

/-- Nodes have at most one first fault. -/
theorem FirstFault.unique {nodes : List Datatype} (first : c.FirstFault nodes e)
    (second : c.FirstFault nodes e') : e = e' := by
  induction nodes with
  | nil =>
      obtain ⟨before, node, after, split, -, -⟩ := first
      simp at split
  | cons d rest ih =>
      rcases firstFault_cons_iff.mp first with faults | ⟨admits, first⟩
      · rcases firstFault_cons_iff.mp second with faults' | ⟨admits, -⟩
        · exact faults.unique faults'
        · exact absurd admits faults.not_admits
      · rcases firstFault_cons_iff.mp second with faults | ⟨-, second⟩
        · exact absurd admits faults.not_admits
        · exact ih first second

/-! ## Two targets -/

/-- A fault does not depend on the templates, as long as they take the same numbers of
parameters. -/
theorem Faults.transfer (standard : c.backend.templates.Standard)
    (standard' : other.backend.templates.Standard) (project : c.project = other.project)
    (faults : c.Faults d e) : other.Faults d e := by
  have tables := (standard.map_get? d.name).trans (standard'.map_get? d.name).symm
  cases faults with
  | arity builtin wrong =>
      rw [builtin] at tables
      obtain ⟨template', found, same⟩ := Option.map_eq_some_iff.mp tables.symm
      rw [← same] at wrong ⊢
      exact .arity found wrong
  | parametrised custom generic =>
      rw [custom] at tables
      exact .parametrised (Option.map_eq_none_iff.mp tables.symm) generic
  | unresolved custom plain unknown =>
      rw [custom] at tables
      rw [project] at unknown
      exact .unresolved (Option.map_eq_none_iff.mp tables.symm) plain unknown

theorem FirstFault.transfer (standard : c.backend.templates.Standard)
    (standard' : other.backend.templates.Standard) (project : c.project = other.project)
    {nodes : List Datatype} (first : c.FirstFault nodes e) : other.FirstFault nodes e := by
  obtain ⟨before, node, after, split, admitted, faults⟩ := first
  refine ⟨before, node, after, split, fun b mem => ?_, faults.transfer standard standard' project⟩
  rw [admits_iff standard', ← project, ← admits_iff standard]
  exact admitted b mem

theorem failure?_convertDatatype_eq_some (d : Datatype)
    (failed : failure? (c.convertDatatype d).result = some e) : c.FirstFault d.nodes e := by
  rw [convertDatatype_eq] at failed
  dsimp only at failed
  cases result : (c.resolve listing d []).1 with
  | ok t =>
      rw [result] at failed
      exact nomatch failed
  | error e' =>
      rw [result] at failed
      cases failed
      exact firstFault_of_resolve (Prod.ext result rfl)

/-- What one target reports of a tree, another one reports too. -/
theorem failure?_convertDatatype_transfer (standard : c.backend.templates.Standard)
    (standard' : other.backend.templates.Standard) (project : c.project = other.project)
    (failed : failure? (c.convertDatatype d).result = some e) :
    failure? (other.convertDatatype d).result = some e := by
  have first := (failure?_convertDatatype_eq_some d failed).transfer standard standard' project
  cases result : (other.convertDatatype d).result with
  | ok t =>
      have admitted : ∀ node ∈ d.nodes, other.Admits node :=
        exists_resolve_eq_ok_iff.mp ⟨t, _, Prod.ext result rfl⟩
      exact absurd admitted first.not_admitted
  | error e' =>
      have again := failure?_convertDatatype_eq_some d (congrArg failure? result)
      rw [failure?_error, again.unique first]

/-- Two targets convert the same references, and they report the same errors of the others. -/
theorem failure?_convert_eq (standard : c.backend.templates.Standard)
    (standard' : other.backend.templates.Standard) (project : c.project = other.project)
    (reference : String) :
    failure? (c.convert reference).result = failure? (other.convert reference).result := by
  cases read : Datatype.parse reference with
  | error e => rw [convert_of_parse_error read, convert_of_parse_error read]; rfl
  | ok d =>
      have same : failure? (c.convertDatatype d).result =
          failure? (other.convertDatatype d).result := by
        refine Option.ext fun e => ⟨?_, ?_⟩
        · exact failure?_convertDatatype_transfer standard standard' project
        · exact failure?_convertDatatype_transfer standard' standard project.symm
      rw [convert_of_parse read, convert_of_parse read, failure?_labelled, failure?_labelled, same]

end ApiCompiler.Converter
