import ApiCompiler.Module
import ApiCompiler.Project
import ApiCompiler.Proofs.Endpoint.Kinds
import ApiCompiler.Proofs.Fallible
import ApiCompiler.Target.Go.Dependency

/-!
# What validation guarantees

The facts about a valid module that descriptions and renderings rely on: every
declared authentication is one of the known methods, every type has one shape, every
error a known category, and the arguments of every endpoint can be resolved. A declaration is
rendered by its shape, and a valid one has references only where its shape shows
them.
-/

namespace ApiCompiler

open Fallible

/-! ## The references of a module -/

/-- The types of fields. -/
def fieldTypes (fields : Option (OrderedMap Field)) : List String :=
  (OrderedMap.entriesOf fields).map (·.2.type)

namespace TypeDecl

/-- All references of a type. -/
def references (t : TypeDecl) : List String :=
  t.extends_.toList ++ fieldTypes t.fields ++ (OrderedMap.entriesOf t.union).map (·.2)

/-- The references that belong to the shape of a type. -/
def shownReferences (t : TypeDecl) : List String :=
  match t.shape with
  | .enum => []
  | .union => (OrderedMap.entriesOf t.union).map (·.2)
  | .struct => fieldTypes t.fields ++ t.extends_.toList

theorem succeeds_validate_iff {t : TypeDecl} {name : Option String} :
    Succeeds (t.validate name) ↔ firstClash t.shapeGroups = none := by
  rw [validate]
  cases firstClash t.shapeGroups with
  | none => simp
  | some clash => simp

/-- A valid type declares keys of one shape only. -/
theorem shape_cases {t : TypeDecl} (valid : firstClash t.shapeGroups = none) :
    t.shape = .enum ∧ t.extends_ = none ∧ t.fields = none ∧ t.union = none ∨
      t.shape = .union ∧ t.extends_ = none ∧ t.fields = none ∨
      t.shape = .struct ∧ t.union = none := by
  obtain ⟨values, extends_, fields, union, docs⟩ := t
  cases values <;> cases extends_ <;> cases fields <;> cases union <;>
    simp_all [firstClash, shapeGroups, shape]

/-- A valid type has no references besides those that its shape shows. -/
theorem mem_shownReferences_iff {t : TypeDecl} (valid : firstClash t.shapeGroups = none)
    (r : String) : r ∈ t.shownReferences ↔ r ∈ t.references := by
  rw [shownReferences, references]
  rcases shape_cases valid with ⟨shape, base, fields, union⟩ | ⟨shape, base, fields⟩ |
    ⟨shape, union⟩
  · simp [shape, base, fields, union, fieldTypes, OrderedMap.entriesOf]
  · simp [shape, base, fields, fieldTypes, OrderedMap.entriesOf]
  · simp [shape, union, OrderedMap.entriesOf, or_comm]

end TypeDecl

/-- All references of an endpoint. -/
def Endpoint.references (e : Endpoint) : List String :=
  e.argumentList.map (·.2.type) ++ if e.result == "" then [] else [e.result]

theorem Endpoint.types_of_resolveArguments {e : Endpoint} {out : List ResolvedArgument}
    (resolved : e.resolveArguments = .ok out) :
    out.map (·.type) = e.argumentList.map (·.2.type) := by
  have pairs := congrArg (List.map Prod.snd) (map_ruled e.route e.argumentList)
  rw [List.map_map, List.map_map] at pairs
  rw [resolveArguments, resolve_eq] at resolved
  split at resolved
  · cases resolved
  · split at resolved
    · cases resolved
    · cases resolved
      exact pairs

theorem Module.endpointList_eq_nil {m : Module}
    (empty : (OrderedMap.entriesOf m.endpoints).isEmpty = true) : m.endpointList = [] := by
  rw [endpointList, defined, List.isEmpty_iff.mp empty, List.filterMap_nil]

theorem Go.typeReferences_eq (m : Module) :
    Go.typeReferences m =
      (m.typeList.flatMap fun t => t.2.references) ++
        (m.errorList.flatMap fun e => fieldTypes e.2.fields) ++
        m.endpointList.flatMap fun e => e.2.references :=
  rfl

/-! ## Validity -/

/-- A known method of authentication, with the name of a header only for bearer
tokens. -/
def Auth.IsValid (a : Auth) : Prop :=
  match a.method with
  | .oauth2Bearer => True
  | .basic | .none => a.headerName = ""
  | .other _ => False

/-- What descriptions and renderings rely on in an endpoint. -/
structure Endpoint.IsValid (e : Endpoint) : Prop where
  auth : ∀ a, e.auth = some a → a.IsValid
  kinds : ∀ a ∈ e.argumentList, ∀ kind, a.2.kind = some kind → kind ∈ Endpoint.declarableKinds
  resolves : Succeeds e.resolveArguments

/-- What descriptions and renderings rely on in a module. -/
structure Module.IsValid (m : Module) : Prop where
  auth : ∀ a, m.auth = some a → a.IsValid
  types : ∀ t ∈ m.typeList, Succeeds (t.2.validate none)
  errors : ∀ e ∈ m.errorList, e.2.effectiveCode.isKnown = true
  endpoints : ∀ e ∈ m.endpointList, e.2.IsValid

theorem Auth.succeeds_validate_iff {a : Auth} : Succeeds a.validate ↔ a.IsValid := by
  obtain ⟨method, headerName⟩ := a
  cases method with
  | oauth2Bearer => exact iff_of_true (succeeds_ok _) trivial
  | basic | none =>
      by_cases empty : headerName = ""
      · simp [validate, IsValid, empty]
      · simp [validate, IsValid, empty]
  | other name => exact iff_of_false (not_succeeds_error _) id

theorem OrderedMap.nodup_keys_entriesOf {V : Type} (m : Option (OrderedMap V)) :
    ((OrderedMap.entriesOf m).map (·.1)).Nodup := by
  cases m with
  | none => exact List.nodup_nil
  | some m => exact m.nodup_keys

namespace Module

theorem isValid_of_checkAuth {a : Auth} (checked : Succeeds (checkAuth a)) : a.IsValid := by
  unfold checkAuth at checked
  split at checked
  · exact absurd checked (not_succeeds_error _)
  · exact absurd checked (not_succeeds_error _)
  · exact Auth.succeeds_validate_iff.mp checked

theorem isValid_of_checkAuth? {label : String} {auth : Option Auth}
    (checked : Succeeds (checkAuth? label auth)) (a : Auth) (declared : auth = some a) :
    a.IsValid := by
  rw [declared] at checked
  exact isValid_of_checkAuth (succeeds_labelled_iff.mp checked)

/-- Every declaration of a group passes the check of the group. -/
theorem succeeds_of_checkAll {V : Type} {noun : String} {check : String → V → Except Error Unit}
    {declarations : Option (OrderedMap (Option V))}
    (checked : Succeeds (checkAll noun check declarations)) {d : String × V}
    (mem : d ∈ defined declarations) : Succeeds (check d.1 d.2) := by
  obtain ⟨⟨name, value⟩, inside, kept⟩ := List.mem_filterMap.mp mem
  obtain ⟨v, rfl, rfl⟩ := Option.map_eq_some_iff.mp kept
  exact succeeds_forM_iff.mp checked _ inside

theorem firstClash_of_checkType {name : String} {t : TypeDecl}
    (checked : Succeeds (checkType name t)) : TypeDecl.firstClash t.shapeGroups = none := by
  obtain ⟨_, result⟩ := checked
  obtain ⟨_, -, rest⟩ := bind_eq_ok_iff.mp result
  obtain ⟨_, -, rest⟩ := bind_eq_ok_iff.mp rest
  obtain ⟨_, valid, -⟩ := bind_eq_ok_iff.mp rest
  exact TypeDecl.succeeds_validate_iff.mp ⟨_, valid⟩

theorem isKnown_of_checkError {e : ErrorDecl} (checked : Succeeds (checkError e)) :
    e.effectiveCode.isKnown = true := by
  obtain ⟨_, result⟩ := checked
  obtain ⟨_, valid, -⟩ := bind_eq_ok_iff.mp result
  unfold ErrorDecl.validate at valid
  by_contra unknown
  rw [if_neg unknown] at valid
  exact nomatch valid

/-- An argument may declare every kind of the vocabulary but that of credentials. -/
theorem kind_mem_of_checkArgument {endpoint name : String} {a : Argument}
    (checked : Succeeds (checkArgument endpoint name (some a))) {kind : ParamKind}
    (declared : a.kind = some kind) : kind ∈ Endpoint.declarableKinds := by
  obtain ⟨_, result⟩ := succeeds_labelled_iff.mp checked
  obtain ⟨_, valid, -⟩ := bind_eq_ok_iff.mp result
  rw [Argument.validate, declared] at valid
  cases kind with
  | auth => exact nomatch valid
  | other name => exact nomatch valid
  | body | cookie | header | path | query => decide

theorem isValid_of_checkEndpoint {name : String} {e : Endpoint}
    (checked : Succeeds (checkEndpoint name e)) : e.IsValid := by
  obtain ⟨_, result⟩ := checked
  obtain ⟨_, -, rest⟩ := bind_eq_ok_iff.mp result
  obtain ⟨_, auth, rest⟩ := bind_eq_ok_iff.mp rest
  obtain ⟨_, arguments, rest⟩ := bind_eq_ok_iff.mp rest
  obtain ⟨out, resolved, -⟩ := bind_eq_ok_iff.mp rest
  refine ⟨isValid_of_checkAuth? ⟨_, auth⟩, fun a mem kind declared => ?_,
    ⟨out, labelled_eq_ok_iff.mp resolved⟩⟩
  obtain ⟨⟨argument, value⟩, inside, kept⟩ := List.mem_filterMap.mp mem
  obtain ⟨v, rfl, rfl⟩ := Option.map_eq_some_iff.mp kept
  exact kind_mem_of_checkArgument (succeeds_forM_iff.mp ⟨_, arguments⟩ _ inside) declared

theorem isValid_of_validate {m : Module} (valid : Succeeds m.validate) : m.IsValid := by
  obtain ⟨_, result⟩ := valid
  obtain ⟨_, auth, rest⟩ := bind_eq_ok_iff.mp result
  obtain ⟨_, types, rest⟩ := bind_eq_ok_iff.mp rest
  obtain ⟨_, errors, endpoints⟩ := bind_eq_ok_iff.mp rest
  refine ⟨isValid_of_checkAuth? ⟨_, auth⟩, fun t mem => ?_, fun e mem => ?_, fun e mem => ?_⟩
  · have checked := succeeds_of_checkAll ⟨_, types⟩ mem
    exact TypeDecl.succeeds_validate_iff.mpr (firstClash_of_checkType checked)
  · have checked := succeeds_of_checkAll ⟨_, errors⟩ mem
    exact isKnown_of_checkError (succeeds_labelled_iff.mp checked)
  · exact isValid_of_checkEndpoint (succeeds_of_checkAll ⟨_, endpoints⟩ mem)

theorem nodup_defined {V : Type} (declarations : Option (OrderedMap (Option V))) :
    ((defined declarations).map (·.1)).Nodup := by
  refine (OrderedMap.nodup_keys_entriesOf declarations).sublist ?_
  unfold defined
  generalize OrderedMap.entriesOf declarations = entries
  induction entries with
  | nil => exact List.Sublist.refl _
  | cons e rest ih =>
      obtain ⟨name, d⟩ := e
      cases d with
      | none => exact ih.cons name
      | some d => exact ih.cons_cons name

end Module

theorem Endpoint.nodup_argumentList (e : Endpoint) : (e.argumentList.map (·.1)).Nodup :=
  Module.nodup_defined e.arguments

/-- Every module is valid, and the route of every endpoint was read from a text. -/
structure Project.IsChecked (p : Project) : Prop where
  validates : p.validate = .ok ()
  routes : ∀ m ∈ p.moduleList, ∀ e ∈ m.2.endpointList, ∃ s, Route.parse s = .ok e.2.route

theorem Project.IsChecked.isValid {p : Project} (checked : p.IsChecked) {m : String × Module}
    (mem : m ∈ p.moduleList) : m.2.IsValid := by
  have each := succeeds_forM_iff.mp ⟨_, checked.validates⟩ m mem
  exact Module.isValid_of_validate (succeeds_labelled_iff.mp each)

/-! ## A checked project -/

/-- A module that only declares a type. -/
def Module.paging : Module :=
  ⟨"Paging", "", none, some ⟨[("Page", some ⟨none, none,
    some ⟨[("token", ⟨"optional[string]", "", none⟩)], by decide⟩, none, ""⟩)], by decide⟩,
    none, none⟩

/-- A module with endpoints that require authentication, replace it and switch it off. -/
def Module.todo : Module where
  name := "Todo"
  docs := "Items to \"do\"."
  auth := some (.oauth2Bearer "X-Token")
  types := some ⟨[("Item", some ⟨none, none,
    some ⟨[("id", ⟨"integer", "", none⟩), ("tags", ⟨"list[string]", "", none⟩)], by decide⟩,
    none, ""⟩)], by decide⟩
  errors := some ⟨[("ItemMissing", some ⟨some .notFound, none, ""⟩)], by decide⟩
  endpoints := some ⟨[
    ("getItem", some ⟨⟨"GET", [.literal "/items/", .param ⟨"id", ""⟩]⟩, none,
      some ⟨[("id", some ⟨"integer", none⟩), ("page", some ⟨"optional[Page]", none⟩)], by decide⟩,
      "Item", "Reads an item."⟩),
    ("putItem", some ⟨⟨"PUT", [.literal "/items/", .param ⟨"id", ""⟩]⟩, some .basic,
      some ⟨[("id", some ⟨"integer", none⟩), ("item", some ⟨"Item", none⟩)], by decide⟩, "", ""⟩),
    ("ping", some ⟨⟨"GET", [.literal "/ping"]⟩, some .off, none, "", ""⟩)], by decide⟩

/-- Two modules, one of which uses a type of the other. -/
def Project.todo : Project := ⟨⟨[("paging", .paging), ("todo", .todo)], by decide⟩⟩

theorem Project.isChecked_todo : todo.IsChecked where
  validates := by rfl
  routes := by
    have rendered : ∀ m ∈ todo.moduleList, ∀ e ∈ m.2.endpointList,
        Route.parse e.2.route.render = .ok e.2.route := by decide +kernel
    exact fun m mem e inside => ⟨_, rendered m mem e inside⟩

end ApiCompiler
