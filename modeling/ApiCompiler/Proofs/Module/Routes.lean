import ApiCompiler.Proofs.Module.Valid
import ApiCompiler.Proofs.Route.RoundTrip
import ApiCompiler.Proofs.Yaml.Record
import ApiCompiler.Module.Read

/-!
# Routes of decoded modules

A route that is written as a scalar is read, and is written again as it was read. The record form
of a route gives a method alone, which need not be one of the known methods; validation asks only
that something was given. So a decoded route either is one that `Route.parse` reads, or it has no
path at all.
-/

namespace ApiCompiler

open Fallible Yaml

/-! ## Routes -/

namespace Route

/-- A route that was read from its text, or one without a path. -/
def IsReadOrBare (r : Route) : Prop := parse r.render = .ok r ∨ r.parts = []

theorem start_of_parse {s : String} {r : Route} (read : parse s = .ok r) :
    r.method ∈ methods ∧ r.path.toList.head? = some '/' := by
  obtain ⟨path, -, known, slash, parts, -⟩ := parse_eq_ok_iff.mp read
  obtain ⟨method, _⟩ := r
  dsimp only at parts
  subst parts
  rw [path_partsOf]
  exact ⟨known, slash⟩

theorem parts_ne_nil_of_parse {s : String} {r : Route} (read : parse s = .ok r) : r.parts ≠ [] := by
  intro bare
  have slash := (start_of_parse read).2
  rw [Route.path, bare] at slash
  exact nomatch slash

/-- A route without a path is not read. -/
theorem IsReadOrBare.parse_render_iff {r : Route} (real : r.IsReadOrBare) :
    parse r.render = .ok r ↔ r.parts ≠ [] :=
  ⟨parts_ne_nil_of_parse, real.resolve_right⟩

/-- The record form of a route has no path. -/
theorem settles_recordType :
    recordType.Settles "method" (·.parts = []) (·.parts = []) where
  isWord _ := rfl
  weaken _ := id
  itself := by
    intro set known s t n r r' t' bare changed
    cases known
    obtain ⟨v, -, rfl⟩ := exists_of_part changed
    exact bare
  others := by
    intro key set other known
    unfold recordType at known
    dsimp only at known
    split at known
    · exact absurd rfl other
    · exact nomatch known

theorem takes_reader : reader.Takes (· = unset) IsReadOrBare := by
  rintro s t n before v t' rfl returned
  unfold reader at returned
  split at returned
  · obtain ⟨⟨written, good⟩, u, -, returned⟩ := Fit.returns_bind_iff.mp returned
    cases good with
    | false =>
        obtain ⟨rfl, -⟩ := Fit.returns_pure_iff.mp returned
        exact .inr rfl
    | true =>
        dsimp only at returned
        rw [Bool.not_true, if_neg Bool.false_ne_true] at returned
        split at returned
        · rename_i r read
          obtain ⟨rfl, -⟩ := Fit.returns_pure_iff.mp returned
          exact .inl (parse_render_of_parse read)
        · exact absurd returned Fit.not_returns_fail
  · exact .inr (settles_recordType.takes_reader _ _ _ _ _ _ rfl returned)

end Route

/-! ## Endpoints -/

namespace Endpoint

/-- The route of an endpoint is set at most once, from an unset one. -/
theorem settles_recordType :
    recordType.Settles "http" (·.route = .unset) (·.route.IsReadOrBare) where
  isWord _ := rfl
  weaken e unset := .inr (by rw [unset]; rfl)
  itself := by
    intro set known s t n e e' t' unset changed
    cases known
    obtain ⟨v, read, rfl⟩ := exists_of_part changed
    exact Route.takes_reader.visit _ _ _ _ _ _ unset read
  others := by
    intro key set other known s t n e e' t' changed
    have same : e'.route = e.route := by
      unfold recordType at known
      dsimp only at known
      split at known
      · exact absurd rfl other
      all_goals cases known
      all_goals
        obtain ⟨v, -, rfl⟩ := exists_of_part changed
        rfl
    rw [same]
    exact ⟨id, id⟩

/-- The declared endpoints of a group have routes that were read, or bare ones. -/
def HaveReadRoutes (endpoints : OrderedMap (Option Endpoint)) : Prop :=
  Each (fun d => ∀ e ∈ d, e.route.IsReadOrBare) endpoints

theorem isReadOrBare_of_read {s : Surroundings} {n : Node} {d : Option Endpoint}
    (made : read s n = .ok d) : ∀ e ∈ d, e.route.IsReadOrBare :=
  (settles_recordType.takes_reader.optional settles_recordType.weaken rfl).of_alone
    (fun e mem => absurd mem (Option.not_mem_none e)) made

end Endpoint

/-! ## Modules -/

namespace Module

/-- Every endpoint of a module has a route that was read, or a bare one. -/
def HasReadRoutes (m : Module) : Prop := ∀ group ∈ m.endpoints, Endpoint.HaveReadRoutes group

theorem settles_recordType : recordType.Settles "endpoints" HasReadRoutes HasReadRoutes where
  isWord _ := rfl
  weaken _ := id
  itself := by
    intro set known s t n m m' t' before changed
    cases known
    obtain ⟨v, read, rfl⟩ := exists_of_part changed
    have group : (groupReader ("*" ++ fullName "EndpointConfig") Endpoint.read).Takes
        (fun g => ∀ e ∈ g, Endpoint.HaveReadRoutes e)
        (fun g => ∀ e ∈ g, Endpoint.HaveReadRoutes e) :=
      (takes_orderedMap fun _ _ _ => Endpoint.isReadOrBare_of_read).optional (fun _ => id)
        each_empty
    exact group.visit _ _ _ _ _ _ before read
  others := by
    intro key set other known s t n m m' t' changed
    have same : m'.endpoints = m.endpoints := by
      unfold recordType at known
      dsimp only at known
      split at known
      case h_6 => exact absurd rfl other
      all_goals cases known
      all_goals
        obtain ⟨v, -, rfl⟩ := exists_of_part changed
        rfl
    rw [HasReadRoutes, HasReadRoutes, same]
    exact ⟨id, id⟩

theorem hasReadRoutes_empty : empty.HasReadRoutes :=
  fun group mem => absurd mem (Option.not_mem_none group)

theorem hasReadRoutes_of_parse {strict : Bool} {text : String} {m : Module}
    (parsed : parse strict text = .ok m) : m.HasReadRoutes :=
  settles_recordType.takes_reader.of_ofText hasReadRoutes_empty hasReadRoutes_empty parsed

theorem isReadOrBare_of_mem {m : Module} (routes : m.HasReadRoutes) {e : String × Endpoint}
    (mem : e ∈ m.endpointList) : e.2.route.IsReadOrBare := by
  obtain ⟨⟨name, d⟩, inside, kept⟩ := List.mem_filterMap.mp mem
  obtain ⟨e', rfl, rfl⟩ := Option.map_eq_some_iff.mp kept
  cases declared : m.endpoints with
  | none =>
      rw [declared] at inside
      exact nomatch inside
  | some group =>
      rw [declared] at inside
      exact routes group declared _ inside _ rfl

theorem isUnset_of_validate {m : Module} (valid : m.validate = .ok ()) {e : String × Endpoint}
    (mem : e ∈ m.endpointList) : e.2.route.isUnset = false := by
  obtain ⟨_, -, rest⟩ := bind_eq_ok_iff.mp valid
  obtain ⟨_, -, rest⟩ := bind_eq_ok_iff.mp rest
  obtain ⟨_, -, endpoints⟩ := bind_eq_ok_iff.mp rest
  obtain ⟨_, checked⟩ := succeeds_of_checkAll ⟨_, endpoints⟩ mem
  obtain ⟨_, given, -⟩ := bind_eq_ok_iff.mp checked
  unfold requireRoute at given
  split at given
  · exact nomatch given
  · rename_i set
    exact Bool.eq_false_iff.mpr set

theorem decode_eq_ok_iff {text : String} {m : Module} :
    decode text = .ok m ↔ parse true text = .ok m ∧ m.validate = .ok () := by
  unfold decode
  cases parse true text with
  | error e => exact iff_of_false nofun nofun
  | ok read =>
      dsimp only
      rw [bind_eq_ok_iff]
      constructor
      · rintro ⟨_, same, rest⟩
        cases same
        obtain ⟨_, valid, same⟩ := bind_eq_ok_iff.mp rest
        cases same
        exact ⟨rfl, valid⟩
      · rintro ⟨same, valid⟩
        cases same
        exact ⟨m, rfl, bind_eq_ok_iff.mpr ⟨(), valid, rfl⟩⟩

/-- A route of a decoded module is read again from its own text exactly if it has a path; then
its method is known and its path begins with a slash. A route without a path has a method, which
need not be known. -/
theorem routes_of_decode {text : String} {m : Module} (decoded : decode text = .ok m) :
    ∀ e ∈ m.endpointList,
      (Route.parse e.2.route.render = .ok e.2.route ↔ e.2.route.parts ≠ []) ∧
      (e.2.route.parts ≠ [] →
        e.2.route.method ∈ Route.methods ∧ e.2.route.path.toList.head? = some '/') ∧
      (e.2.route.parts = [] → e.2.route.method ≠ "") := by
  obtain ⟨parsed, valid⟩ := decode_eq_ok_iff.mp decoded
  intro e mem
  have again := (isReadOrBare_of_mem (hasReadRoutes_of_parse parsed) mem).parse_render_iff
  refine ⟨again, fun path => Route.start_of_parse (again.mpr path), fun bare empty => ?_⟩
  have given := isUnset_of_validate valid mem
  rw [Route.isUnset, bare, empty] at given
  exact nomatch given

/-- An endpoint with a route, and one that merges it. -/
theorem routes_of_decode_merged :
    let text := "endpoints:\n  a: &a\n    http: GET /a/\x7bid\x7d\n  b:\n    <<: *a\n    docs: B\n"
    ∃ m, decode text = .ok m ∧ ∀ e ∈ m.endpointList,
      (Route.parse e.2.route.render = .ok e.2.route ↔ e.2.route.parts ≠ []) ∧
      (e.2.route.parts ≠ [] →
        e.2.route.method ∈ Route.methods ∧ e.2.route.path.toList.head? = some '/') ∧
      (e.2.route.parts = [] → e.2.route.method ≠ "") := by
  intro text
  have success : Succeeds (decode text) := by decide +kernel
  obtain ⟨m, decoded⟩ := success
  exact ⟨m, decoded, routes_of_decode decoded⟩

/-- A mapping gives a route without a path, which decoding does not refuse. -/
theorem bare_route_decoded :
    let text := "endpoints: \x7be: \x7bhttp: \x7bmethod: GET\x7d\x7d\x7d\n"
    ∃ m, decode text = .ok m ∧
      ∃ e ∈ m.endpointList, Route.parse e.2.route.render ≠ .ok e.2.route := by
  intro text
  have routes : ((decode text).toOption.map fun m => m.endpointList.map (·.2.route)) =
      some [⟨"GET", []⟩] := by decide +kernel
  obtain ⟨m, decoded, all⟩ := Option.map_eq_some_iff.mp routes
  obtain ⟨e, only, bare⟩ := List.map_eq_singleton_iff.mp all
  refine ⟨m, toOption_eq_some_iff.mp decoded, e, only ▸ List.mem_singleton_self e, fun read => ?_⟩
  exact Route.parts_ne_nil_of_parse read (by rw [bare])

end Module

end ApiCompiler
