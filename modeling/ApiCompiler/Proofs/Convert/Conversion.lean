import ApiCompiler.Describe.TypeRef
import ApiCompiler.Proofs.Convert.Interpretation
import ApiCompiler.Proofs.Fallible
import ApiCompiler.Target.Go.Types
import ApiCompiler.Target.Python.Generate
import ApiCompiler.Target.TypeScript.Types

/-!
# One conversion

All targets give the builtin types the same numbers of parameters. So whether a
reference converts depends on the project alone, and of the project only the
declarations of the names in the reference count.
-/

namespace ApiCompiler

open Fallible

/-! ## Tables of builtin types -/

namespace Templates

/-- The builtin types with their numbers of parameters. -/
def builtinArities : List (String × Nat) :=
  [("any", 0), ("string", 0), ("integer", 0), ("double", 0), ("boolean", 0), ("datetime", 0),
    ("decimal", 0), ("list", 1), ("set", 1), ("map", 2), ("optional", 1)]

/-- The number of parameters of a builtin type. -/
def builtinArity? (name : String) : Option Nat :=
  (builtinArities.find? (·.1 == name)).map (·.2)

/-- A table has exactly the builtin types, with their numbers of parameters. -/
def Standard (t : Templates) : Prop :=
  t.entries.map (fun e => (e.1, arityOf e.2)) = builtinArities

instance : DecidablePred Standard := fun _ => inferInstanceAs (Decidable (_ = _))

theorem Standard.map_get? {t : Templates} (standard : t.Standard) (name : String) :
    (t.get? name).map arityOf = builtinArity? name := by
  rw [builtinArity?, ← standard, List.find?_map, get?, Option.map_map, Option.map_map]
  rfl

end Templates

theorem TypeRef.standard_templates : TypeRef.templates.Standard := by decide

theorem Go.standard_typeTemplates : Go.typeTemplates.Standard := by decide

theorem Go.standard_refTemplates : Go.refTemplates.Standard := by decide

theorem TypeScript.standard_typeTemplates : TypeScript.typeTemplates.Standard := by decide

theorem TypeScript.standard_descriptorTemplates : TypeScript.descriptorTemplates.Standard := by
  decide

theorem Python.standard_templates : Python.templates.Standard := by decide

/-! ## What a project converts -/

namespace Project

open Templates

/-- A node that converts: a builtin type with all its parameters, or the plain name
of a custom type. -/
def Admits (p : Project) (node : Datatype) : Prop :=
  match builtinArity? node.name with
  | some arity => node.params.length = arity
  | none => node.params? = none ∧ (p.findType node.name).isSome = true

/-- A reference that every target converts. -/
def Converts (p : Project) (reference : String) : Prop :=
  ∃ d, Datatype.parse reference = .ok d ∧ ∀ node ∈ d.nodes, p.Admits node

/-- Two projects declare the same types under the names of a reference. -/
def AgreesOn (p q : Project) (reference : String) : Prop :=
  ∀ d, Datatype.parse reference = .ok d → ∀ node ∈ d.nodes,
    builtinArity? node.name = none → p.findType node.name = q.findType node.name

/-- The custom type that a node names. A builtin type hides a custom one. -/
def locate (p : Project) (node : Datatype) : Option TypeLocator :=
  match builtinArity? node.name with
  | some _ => none
  | none => p.findType node.name

end Project

namespace Converter

variable {S T : Type} {c : Converter T}

theorem admits_iff (standard : c.backend.templates.Standard) (node : Datatype) :
    c.Admits node ↔ c.project.Admits node := by
  rw [Admits, Project.Admits, ← standard.map_get?]
  cases c.backend.templates.get? node.name with
  | none => rfl
  | some template => rfl

theorem convertDatatype_eq (c : Converter T) (d : Datatype) :
    c.convertDatatype d = ⟨(c.resolve listing d []).2, (c.resolve listing d []).1⟩ :=
  rfl

theorem convert_of_parse {reference : String} {d : Datatype}
    (read : Datatype.parse reference = .ok d) :
    c.convert reference = ⟨(c.convertDatatype d).visits,
      labelled ("converting " ++ Text.quote reference) (c.convertDatatype d).result⟩ := by
  rw [convert, read]

theorem convert_of_parse_error {reference : String} {e : Error}
    (unread : Datatype.parse reference = .error e) : c.convert reference = ⟨[], .error e⟩ := by
  rw [convert, unread]

theorem convert_result_eq_ok_iff {reference : String} {t : T} :
    (c.convert reference).result = .ok t ↔
      ∃ d, Datatype.parse reference = .ok d ∧ (c.convertDatatype d).result = .ok t := by
  cases read : Datatype.parse reference with
  | error e => simp [convert_of_parse_error read]
  | ok d => simp [convert_of_parse read, labelled_eq_ok_iff]

theorem succeeds_convert_iff_admits {reference : String} :
    Succeeds (c.convert reference).result ↔
      ∃ d, Datatype.parse reference = .ok d ∧ ∀ node ∈ d.nodes, c.Admits node := by
  constructor
  · rintro ⟨t, result⟩
    obtain ⟨d, read, inner⟩ := convert_result_eq_ok_iff.mp result
    exact ⟨d, read, exists_resolve_eq_ok_iff.mp ⟨t, _, Prod.ext inner rfl⟩⟩
  · rintro ⟨d, read, admitted⟩
    have listed : ∃ t visits, c.resolve listing d [] = (.ok t, visits) :=
      exists_resolve_eq_ok_iff.mpr admitted
    obtain ⟨t, visits, inner⟩ := listed
    exact ⟨t, convert_result_eq_ok_iff.mpr ⟨d, read, congrArg Prod.fst inner⟩⟩

/-- Whether a reference converts does not depend on the target. -/
theorem succeeds_convert_iff (standard : c.backend.templates.Standard) (reference : String) :
    Succeeds (c.convert reference).result ↔ c.project.Converts reference := by
  simp only [succeeds_convert_iff_admits, admits_iff standard, Project.Converts]

/-! ## Which declarations count -/

section Congruence

variable {p q : Project} {current : String} {backend : Backend T} {source : String → String}
variable {visit : Visitor S T}

theorem resolveAll_congr {ds : List Datatype}
    (each : ∀ d ∈ ds, resolve ⟨p, current, backend, source⟩ visit d =
      resolve ⟨q, current, backend, source⟩ visit d) :
    resolveAll ⟨p, current, backend, source⟩ visit ds =
      resolveAll ⟨q, current, backend, source⟩ visit ds := by
  induction ds with
  | nil => rfl
  | cons d rest ih =>
      rw [resolveAll, resolveAll, each d List.mem_cons_self,
        ih fun other mem => each other (List.mem_cons_of_mem d mem)]

/-- A conversion looks up the names that the table does not have, and no others. -/
theorem resolve_congr {d : Datatype}
    (same : ∀ node ∈ d.nodes, backend.templates.get? node.name = none →
      p.findType node.name = q.findType node.name) :
    resolve ⟨p, current, backend, source⟩ visit d =
      resolve ⟨q, current, backend, source⟩ visit d := by
  induction d using Datatype.induction_params with
  | node d ih =>
      rw [Datatype.nodes_eq_cons, List.forall_mem_cons] at same
      have parameters := resolveAll_congr fun param mem =>
        ih param mem fun node inside =>
          same.2 node (Datatype.mem_nodesOf_iff.mpr ⟨param, mem, inside⟩)
      rw [resolve_eq, resolve_eq, parameters]
      cases found : backend.templates.get? d.name with
      | some template => rfl
      | none => simp only [resolveCustom, same.1 found]

theorem convert_congr (standard : backend.templates.Standard) {reference : String}
    (agrees : p.AgreesOn q reference) :
    convert ⟨p, current, backend, source⟩ reference =
      convert ⟨q, current, backend, source⟩ reference := by
  cases read : Datatype.parse reference with
  | error e => rw [convert_of_parse_error read, convert_of_parse_error read]
  | ok d =>
      have same : resolve ⟨p, current, backend, source⟩ listing d =
          resolve ⟨q, current, backend, source⟩ listing d := by
        refine resolve_congr fun node mem missing => agrees d read node mem ?_
        rw [← standard.map_get?, missing, Option.map_none]
      rw [convert_of_parse read, convert_of_parse read, convertDatatype_eq, convertDatatype_eq,
        same]

end Congruence

/-! ## What is passed on from the parameters -/

section Passing

variable {visit : Visitor S T}

/-- Parameters that are converted as a list are converted one by one. -/
theorem forall₂_of_resolveAll {ds : List Datatype} {ts : List T} {s s' : S}
    (result : c.resolveAll visit ds s = (.ok ts, s')) :
    List.Forall₂ (fun d t => ∃ s s', c.resolve visit d s = (.ok t, s')) ds ts := by
  induction ds generalizing s ts with
  | nil =>
      cases result
      exact .nil
  | cons d ds ih =>
      obtain ⟨value, middle, values, first, others, rfl⟩ := resolveAll_cons_eq_ok_iff.mp result
      exact .cons ⟨s, middle, first⟩ (ih others)

/-- A relation between trees and what is made of them holds if it is passed on from the parameters
of every node to the node. -/
theorem resolve_interprets {P : Datatype → T → Prop}
    (node : ∀ d values v, c.Admits d → List.Forall₂ P d.params values →
      c.view d values = some v → P d v.rendered)
    {d : Datatype} {seen seen' : List (Visit T)} {t : T}
    (result : c.resolve listing d seen = (.ok t, seen')) : P d t := by
  induction d using Datatype.induction_params generalizing seen seen' t with
  | node d ih =>
      obtain ⟨admits, values, middle, converted, completed⟩ := resolve_eq_ok_iff.mp result
      obtain ⟨v, shown, answer⟩ := complete_eq_some_iff.mp completed
      cases answer
      refine node d values v admits ?_ shown
      have each := (List.forall₂_and_left _ _).mpr
        ⟨fun p mem => mem, forall₂_of_resolveAll converted⟩
      refine each.imp ?_
      rintro p value ⟨mem, s, s', run⟩
      exact ih p mem run

theorem convert_interprets {P : Datatype → T → Prop}
    (node : ∀ d values v, c.Admits d → List.Forall₂ P d.params values →
      c.view d values = some v → P d v.rendered)
    {reference : String} {t : T} (result : (c.convert reference).result = .ok t) :
    ∃ d, Datatype.parse reference = .ok d ∧ P d t := by
  obtain ⟨d, read, converted⟩ := convert_result_eq_ok_iff.mp result
  exact ⟨d, read, resolve_interprets node (Prod.ext converted rfl)⟩

end Passing

/-! ## Which types are met -/

/-- The custom type that a node names. A name of the table hides a custom type. -/
def locate (c : Converter T) (node : Datatype) : Option TypeLocator :=
  match c.backend.templates.get? node.name with
  | some _ => none
  | none => c.project.findType node.name

theorem locate_eq (standard : c.backend.templates.Standard) (node : Datatype) :
    c.locate node = c.project.locate node := by
  rw [locate, Project.locate, ← standard.map_get?]
  cases c.backend.templates.get? node.name with
  | none => rfl
  | some template => rfl

theorem locate_eq_some_iff {node : Datatype} {loc : TypeLocator} :
    c.locate node = some loc ↔ c.backend.templates.get? node.name = none ∧
      c.project.findType node.name = some loc := by
  rw [locate]
  cases c.backend.templates.get? node.name with
  | none => simp
  | some template => simp

/-- A visitor is shown a type with the values of its parameters. -/
def Shows (c : Converter T) (v : Visit T) : Prop :=
  ∃ values, c.view v.datatype values = some v

theorem Shows.locator {v : Visit T} (shown : c.Shows v) : v.locator = c.locate v.datatype := by
  obtain ⟨values, shown⟩ := shown
  rw [locate]
  rw [view] at shown
  cases found : c.backend.templates.get? v.datatype.name with
  | some template =>
      rw [found] at shown
      exact (congrArg Visit.locator (Option.some.inj shown)).symm
  | none =>
      rw [found] at shown
      obtain ⟨loc, located, same⟩ := Option.map_eq_some_iff.mp shown
      rw [located, ← same]

/-- Types that were met in an order: the first ones, and all of them if nothing failed. -/
structure Listed (c : Converter T) (order : List Datatype) (finished : Prop)
    (visits : List (Visit T)) : Prop where
  shows : ∀ v ∈ visits, c.Shows v
  initial : visits.map (·.datatype) <+: order
  all : finished → visits.map (·.datatype) = order

namespace Listed

variable {order more : List Datatype} {finished goesOn last : Prop}
variable {visits others : List (Visit T)}

theorem nil (unfinished : ¬finished) : c.Listed order finished [] :=
  ⟨List.forall_mem_nil _, List.nil_prefix, fun done => absurd done unfinished⟩

theorem append_right (listed : c.Listed order finished visits) (unfinished : ¬last)
    (more : List Datatype) : c.Listed (order ++ more) last visits :=
  ⟨listed.shows, listed.initial.trans (List.prefix_append order more),
    fun done => absurd done unfinished⟩

theorem append (first : c.Listed order finished visits) (done : finished)
    (second : c.Listed more goesOn others) (same : last → goesOn) :
    c.Listed (order ++ more) last (visits ++ others) where
  shows := List.forall_mem_append.mpr ⟨first.shows, second.shows⟩
  initial := by
    rw [List.map_append, first.all done]
    exact (List.prefix_append_right_inj order).mpr second.initial
  all finished := by rw [List.map_append, first.all done, second.all (same finished)]

end Listed

theorem listed_of_resolveAll {ds : List Datatype}
    (each : ∀ d ∈ ds, ∀ {seen seen' : List (Visit T)} {outcome},
      c.resolve listing d seen = (outcome, seen') →
        ∃ visits, seen' = seen ++ visits ∧ c.Listed d.postorder (Succeeds outcome) visits)
    {seen seen' : List (Visit T)} {outcome : Except Error (List T)}
    (result : c.resolveAll listing ds seen = (outcome, seen')) :
    ∃ visits, seen' = seen ++ visits ∧
      c.Listed (Datatype.postorderOf ds) (Succeeds outcome) visits := by
  induction ds generalizing seen outcome with
  | nil =>
      cases result
      exact ⟨[], (List.append_nil _).symm, List.forall_mem_nil _, List.nil_prefix, fun _ => rfl⟩
  | cons d rest ih =>
      have others := @ih fun other mem => @each other (List.mem_cons_of_mem d mem)
      rw [Datatype.postorderOf]
      cases outcome with
      | error e =>
          rcases resolveAll_cons_eq_error result with failed | ⟨value, middle, first, failed⟩
          · obtain ⟨visits, rfl, listed⟩ := each d List.mem_cons_self failed
            exact ⟨visits, rfl, listed.append_right (not_succeeds_error e) _⟩
          · obtain ⟨visits, rfl, listed⟩ := each d List.mem_cons_self first
            obtain ⟨more, rfl, listedRest⟩ := others failed
            exact ⟨visits ++ more, List.append_assoc seen visits more,
              listed.append (succeeds_ok value) listedRest id⟩
      | ok ts =>
          obtain ⟨value, middle, values, first, last, -⟩ := resolveAll_cons_eq_ok_iff.mp result
          obtain ⟨visits, rfl, listed⟩ := each d List.mem_cons_self first
          obtain ⟨more, rfl, listedRest⟩ := others last
          exact ⟨visits ++ more, List.append_assoc seen visits more,
            listed.append (succeeds_ok value) listedRest fun _ => succeeds_ok values⟩

/-- A conversion meets nodes in their order, every one once if it succeeds. -/
theorem listed_of_resolve {d : Datatype} {seen seen' : List (Visit T)} {outcome : Except Error T}
    (result : c.resolve listing d seen = (outcome, seen')) :
    ∃ visits, seen' = seen ++ visits ∧ c.Listed d.postorder (Succeeds outcome) visits := by
  induction d using Datatype.induction_params generalizing seen seen' outcome with
  | node d ih =>
      have params {seen seen' : List (Visit T)} {outcome : Except Error (List T)}
          (run : c.resolveAll listing d.params seen = (outcome, seen')) :=
        listed_of_resolveAll (fun p mem => @ih p mem) run
      rw [Datatype.postorder_eq_append]
      cases outcome with
      | error e =>
          rcases resolve_eq_error result with faults | ⟨-, failed⟩
          · cases (resolve_of_faults faults seen).symm.trans result
            exact ⟨[], (List.append_nil _).symm, .nil (not_succeeds_error e)⟩
          · obtain ⟨visits, rfl, listed⟩ := params failed
            exact ⟨visits, rfl, listed.append_right (not_succeeds_error e) _⟩
      | ok t =>
          obtain ⟨-, values, middle, converted, completed⟩ := resolve_eq_ok_iff.mp result
          obtain ⟨v, shown, answer⟩ := complete_eq_some_iff.mp completed
          obtain ⟨visits, rfl, listed⟩ := params converted
          cases answer
          have itself : v.datatype = d := view_datatype shown
          have only : [v].map (·.datatype) = [d] := congrArg (fun node => [node]) itself
          have last : c.Listed [d] True [v] :=
            ⟨List.forall_mem_singleton.mpr ⟨values, itself.symm ▸ shown⟩,
              only.symm ▸ List.prefix_rfl, fun _ => only⟩
          exact ⟨visits ++ [v], List.append_assoc seen visits [v],
            listed.append (succeeds_ok values) last fun _ => trivial⟩

theorem listed_of_convert {reference : String} {d : Datatype}
    (read : Datatype.parse reference = .ok d) :
    c.Listed d.postorder (Succeeds (c.convert reference).result) (c.convert reference).visits := by
  obtain ⟨visits, all, listed⟩ :=
    listed_of_resolve (Prod.ext rfl rfl : c.resolve listing d [] =
      ((c.convertDatatype d).result, (c.convertDatatype d).visits))
  rw [convert_of_parse read]
  rw [all, List.nil_append]
  refine ⟨listed.shows, listed.initial, fun done => listed.all ?_⟩
  exact succeeds_labelled_iff.mp done

end Converter

end ApiCompiler
