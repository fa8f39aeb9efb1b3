import ApiCompiler.Proofs.Convert.Agreement
import ApiCompiler.Proofs.Datatype.RoundTrip
import ApiCompiler.Proofs.Go.Description

/-!
# What the targets make of a reference

Every target accepts the same references and reports the same errors of the others. The resolved
type of a reference has the shape of the reference, with the module of every custom type, and the
expression that rebuilds it in Go is written after that shape.
-/

namespace ApiCompiler

open Fallible Text

/-! ## Resolved types -/

namespace TypeRef

mutual

/-- The names and the parameters of a type. -/
def erase : TypeRef → Datatype
  | builtin name [] => .mk name none
  | builtin name (r :: rest) => .mk name (some (eraseAll (r :: rest)))
  | custom _ name => .mk name none
  | credentials => .mk credentialsName none
  | unspecified => .mk "" none

/-- The names and the parameters of several types. -/
def eraseAll : List TypeRef → List Datatype
  | [] => []
  | r :: rest => r.erase :: eraseAll rest

end

/-- A type as a project resolves it: builtin types have all their parameters, and custom types the
module in which the project finds them. -/
inductive ResolvedIn (p : Project) : TypeRef → Prop
  | builtin {name : String} {params : List TypeRef}
      (known : Templates.builtinArity? name = some params.length)
      (each : ∀ r ∈ params, ResolvedIn p r) : ResolvedIn p (builtin name params)
  | custom {name : String} {loc : TypeLocator} (free : Templates.builtinArity? name = none)
      (found : p.findType name = some loc) : ResolvedIn p (custom loc.moduleName name)

theorem eraseAll_eq {params : List Datatype} {values : List TypeRef}
    (each : List.Forall₂ (fun d r => r.erase = d) params values) : eraseAll values = params := by
  induction each with
  | nil => rfl
  | cons first _ ih => rw [eraseAll, first, ih]

/-- A tree without empty parameter lists is the shape of what is made of it. -/
def Matches (p : Project) (d : Datatype) (r : TypeRef) : Prop :=
  (∀ node ∈ d.nodes, node.params? ≠ some []) → r.erase = d ∧ r.ResolvedIn p

theorem matches_node {p : Project} {current : String} (d : Datatype) (values : List TypeRef)
    (v : Visit TypeRef) (admits : (converter p current).Admits d)
    (params : List.Forall₂ (Matches p) d.params values)
    (shown : (converter p current).view d values = some v) : Matches p d v.rendered := by
  intro proper
  have tables := standard_templates.map_get? d.name
  rw [Datatype.nodes_eq_cons, List.forall_mem_cons] at proper
  have each : List.Forall₂ (fun d r => r.erase = d ∧ r.ResolvedIn p) d.params values := by
    have inside := (List.forall₂_and_left _ _).mpr ⟨fun q mem => mem, params⟩
    refine inside.imp ?_
    rintro q r ⟨mem, matched⟩
    exact matched fun node below => proper.2 node (Datatype.mem_nodesOf_iff.mpr ⟨q, mem, below⟩)
  have shape := eraseAll_eq (each.imp fun q r both => both.1)
  have resolved : ∀ r ∈ values, r.ResolvedIn p :=
    ((List.forall₂_and_left _ _).mp (each.flip.imp fun r q both => both.symm)).1
  rw [Converter.Admits, converter, backend] at admits
  rw [Converter.view, converter, backend] at shown
  dsimp only at admits shown
  cases found : templates.get? d.name with
  | some template =>
      rw [found] at tables admits shown
      cases shown
      have known : Templates.builtinArity? d.name = some values.length := by
        rw [← tables, Option.map_some, ← admits, params.length_eq]
      refine ⟨?_, .builtin known resolved⟩
      rcases d with ⟨name, _ | ps⟩
      · cases params
        rfl
      · cases values with
        | nil => exact absurd (congrArg some shape.symm) proper.1
        | cons r rest => rw [erase, shape]; rfl
  | none =>
      rw [found] at tables admits shown
      obtain ⟨loc, located, rfl⟩ := Option.map_eq_some_iff.mp shown
      rcases d with ⟨name, _ | ps⟩
      · obtain rfl : loc.typeName = name := Project.typeName_of_findType located
        exact ⟨rfl, .custom tables.symm located⟩
      · obtain ⟨plain, -⟩ := admits
        cases plain

/-- The type that a reference resolves to has the shape of the reference. -/
theorem erase_of_convert {p : Project} {current reference : String} {r : TypeRef}
    (converted : ((converter p current).convert reference).result = .ok r) :
    Datatype.parse reference = .ok r.erase ∧ r.ResolvedIn p := by
  obtain ⟨d, read, matched⟩ := Converter.convert_interprets matches_node converted
  have wellFormed := Datatype.wellFormed_of_parse read
  obtain ⟨rfl, resolved⟩ := matched fun node mem => (wellFormed.nodes node mem).params_ne
  exact ⟨read, resolved⟩

end TypeRef

/-! ## Expressions that rebuild types -/

namespace Go

/-- A call with its arguments. -/
def call (function : String) (args : List String) : String :=
  function ++ "(" ++ joinWith ", " args ++ ")"

mutual

/-- The expression that constructs a type. -/
def construction : TypeRef → String
  | .builtin name params => call "describe.Builtin" (quote name :: constructionAll params)
  | .custom module name => call "describe.Ref" [quote module, quote name]
  | .credentials => "describe.Credentials"
  | .unspecified => "nil"

/-- The expressions that construct several types. -/
def constructionAll : List TypeRef → List String
  | [] => []
  | r :: rest => construction r :: constructionAll rest

end

theorem constructionAll_eq {texts : List String} {types : List TypeRef}
    (each : List.Forall₂ (fun text r => text = construction r) texts types) :
    constructionAll types = texts := by
  induction each with
  | nil => rfl
  | cons first _ ih => rw [constructionAll, first, ih]

theorem toList_joinWith (texts : List String) :
    (joinWith ", " texts).toList = Script.argumentText texts := by
  rw [joinWith, String.toList_intercalate]
  induction texts with
  | nil => rfl
  | cons text rest ih =>
      cases rest with
      | nil => simp [Script.argumentText]
      | cons next rest =>
          rw [Script.argumentText, ← ih]
          simp

theorem toList_call (function : String) (args : List String) :
    (call function args).toList = Script.callText function args := by
  rw [call, String.toList_append, String.toList_append, String.toList_append, toList_joinWith,
    Script.callText]
  simp

theorem agree_construction :
    refBackend.Agree (fun text r => text = construction r) TypeRef.backend where
  standard := standard_refTemplates
  standard' := TypeRef.standard_templates
  render {name template _ xs rs} found _ length params := by
    have expected : construction (.builtin name rs) =
        call "describe.Builtin" (quote name :: xs) := by
      rw [construction, constructionAll_eq params]
    refine String.toList_inj.mp ((toList_substitute found length).trans ?_)
    rw [← toList_call, ← expected]
    rfl
  reference loc := by
    change _ = construction (.custom loc.moduleName loc.typeName)
    rw [construction]
    apply String.toList_inj.mp
    simp [refBackend, toList_call, Script.callText, Script.argumentText]

end Go

/-! ## All targets -/

theorem Emit.failure?_convert (c : Converter String) (also : Imports → Visit String → Imports)
    (reference : String) (im : Imports) :
    failure? (Emit.convert c also reference im) = failure? (c.convert reference).result :=
  failure?_map _ _

/-- Whatever file a reference is converted for and whatever was imported before, every target gives
one verdict: all convert the reference, or all fail with the same error. If it converts, its
resolved type has the names and the parameters of the reference and the modules in which the
project finds its custom types, and the expression in Go is the one that constructs that type. -/
theorem Project.conversions_agree (p : Project) (reference : String) :
    (∃ verdict : Option Error,
      (∀ current source im, failure?
        (Python.hint ⟨p, current, Python.backend, source⟩ reference im) = verdict) ∧
      (∀ current m im, failure?
        (TypeScript.Scope.type ⟨p, current, m⟩ reference im) = verdict) ∧
      (∀ current m im, failure?
        (TypeScript.Scope.descriptor ⟨p, current, m⟩ reference im) = verdict) ∧
      (∀ current m base im, failure?
        (Go.Scope.type ⟨p, current, m, base⟩ reference im) = verdict) ∧
      (∀ current m base im, failure?
        (Go.Scope.ref ⟨p, current, m, base⟩ reference im) = verdict) ∧
      ∀ current, failure? ((TypeRef.converter p current).convert reference).result = verdict) ∧
    ∀ current r, ((TypeRef.converter p current).convert reference).result = .ok r →
      Datatype.parse reference = .ok r.erase ∧ r.ResolvedIn p ∧
        ∀ current m base im,
          Go.Scope.ref ⟨p, current, m, base⟩ reference im = .ok (Go.construction r, im) := by
  let model := TypeRef.converter p ""
  have agrees {T : Type} (c : Converter T) (standard : c.backend.templates.Standard)
      (project : c.project = p) :
      failure? (c.convert reference).result = failure? (model.convert reference).result :=
    Converter.failure?_convert_eq standard TypeRef.standard_templates project reference
  refine ⟨⟨failure? (model.convert reference).result, ?_, ?_, ?_, ?_, ?_, ?_⟩, ?_⟩
  · intro current source im
    rw [Python.hint, Emit.failure?_convert, agrees _ Python.standard_templates rfl]
  · intro current m im
    rw [TypeScript.Scope.type, Emit.failure?_convert,
      agrees _ TypeScript.standard_typeTemplates rfl]
  · intro current m im
    rw [TypeScript.Scope.descriptor, Emit.failure?_convert,
      agrees _ TypeScript.standard_descriptorTemplates rfl]
  · intro current m base im
    rw [Go.Scope.type, Emit.failure?_convert, agrees _ Go.standard_typeTemplates rfl]
  · intro current m base im
    rw [Go.Scope.ref, Emit.ofExcept, failure?_map, agrees _ Go.standard_refTemplates rfl]
  · intro current
    exact agrees _ TypeRef.standard_templates rfl
  · intro current r converted
    obtain ⟨read, resolved⟩ := TypeRef.erase_of_convert converted
    refine ⟨read, resolved, fun current' m base im => ?_⟩
    let expressions : Converter String := ⟨p, current', Go.refBackend, id⟩
    have accepted : failure? (expressions.convert reference).result = none := by
      rw [agrees expressions Go.standard_refTemplates rfl,
        ← agrees (TypeRef.converter p current) TypeRef.standard_templates rfl, converted,
        failure?_ok]
    obtain ⟨text, written⟩ := failure?_eq_none_iff.mp accepted
    obtain rfl := Converter.convert_related Go.agree_construction written converted
    rw [Go.Scope.ref, Emit.ofExcept]
    exact congrArg _ written

end ApiCompiler
