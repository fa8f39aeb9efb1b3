import ApiCompiler.Proofs.Fallible
import ApiCompiler.Proofs.Route.RoundTrip
import Mathlib.Data.List.Chain
import Mathlib.Data.List.Nodup

/-!
# Which texts are routes

A text is a route if it is a known method, a blank and a path with a leading slash in which no
name is used for two placeholders. What is read then has every placeholder of the path as a
parameter, in order, and nothing that is one in its literal runs.
-/

namespace ApiCompiler.Route

open Fallible

variable {text : List Char} {parts : List PathPart}

theorem not_occursAt_nil (offset : Nat) (p : PathParam) : ¬OccursAt [] offset p := by
  rintro ⟨proper, written⟩
  obtain ⟨inner, shape, -⟩ := exists_inner proper
  rw [List.drop_nil, shape, List.prefix_nil] at written
  exact List.cons_ne_nil _ _ written

theorem not_occursAt_zero {c : Char} {rest : List Char} (free : placeholder? (c :: rest) = none)
    (p : PathParam) : ¬OccursAt (c :: rest) 0 p := by
  rw [occursAt_zero_iff, free]
  exact nofun

/-! ## Parameters -/

theorem params_ontoLiteral (c : Char) (parts : List PathPart) :
    (ontoLiteral c parts).filterMap PathPart.param? = parts.filterMap PathPart.param? := by
  unfold ontoLiteral
  split
  · rfl
  · rfl

/-- The parameters among the pieces of a text are all placeholders of the text, in order. -/
theorem Divided.exists_lists (divided : Divided text parts) :
    ∃ found, Lists text found ∧ parts.filterMap PathPart.param? = found.map (·.2) := by
  induction divided with
  | nil =>
      refine ⟨[], ⟨.nil, fun offset p => ?_⟩, rfl⟩
      exact iff_of_false List.not_mem_nil (not_occursAt_nil offset p)
  | @param p rest parts proper behind ih =>
      obtain ⟨found, lists, same⟩ := ih
      have nonempty : p.render.toList ≠ [] := by
        obtain ⟨inner, shape, -⟩ := exists_inner proper
        exact shape ▸ List.cons_ne_nil _ _
      have start (q : PathParam) :
          OccursAt (p.render.toList ++ rest) 0 q ↔ some p = some q := by
        rw [occursAt_zero_iff,
          placeholder?_eq_some_iff.mpr ⟨proper, List.prefix_append _ rest⟩]
      refine ⟨_, lists.append nonempty (some p) start fun offset q =>
        not_occursAt_inside proper, ?_⟩
      simp [PathPart.param?, same, Function.comp_def]
  | @literal c rest parts free behind ih =>
      obtain ⟨found, lists, same⟩ := ih
      have start (q : PathParam) : OccursAt ([c] ++ rest) 0 q ↔ none = some q :=
        iff_of_false (not_occursAt_zero free q) nofun
      refine ⟨_, lists.append (List.cons_ne_nil c []) none start fun offset q later inside => ?_,
        ?_⟩
      · rw [List.length_singleton] at inside
        omega
      · rw [params_ontoLiteral, same]
        simp [Function.comp_def]

/-- Names of placeholders differ exactly if their list has no repetition. -/
theorem Lists.nodup_names_iff {found : List (Nat × PathParam)} (lists : Lists text found) :
    ((found.map (·.2)).map (·.name)).Nodup ↔ DistinctNames text := by
  rw [List.map_map]
  constructor
  · intro distinct i p j q first second same
    have equal := List.inj_on_of_nodup_map distinct ((lists.mem_iff i p).mpr first)
      ((lists.mem_iff j q).mpr second) same
    exact congrArg Prod.fst equal
  · intro distinct
    have apart : found.Nodup := by
      refine lists.ordered.imp ?_
      rintro a b less rfl
      exact Nat.lt_irrefl _ less
    refine apart.map_on ?_
    rintro ⟨i, p⟩ first ⟨j, q⟩ second same
    have here := (lists.mem_iff i p).mp first
    have there := (lists.mem_iff j q).mp second
    obtain rfl := distinct i p j q here there same
    rw [here.unique there]

/-! ## Literal runs -/

/-- A literal run behind a character is an old one, or the first one grown by the character. -/
theorem mem_ontoLiteral {c : Char} {t : String} (mem : .literal t ∈ ontoLiteral c parts) :
    .literal t ∈ parts ∨ ∃ cs, t.toList = c :: cs ∧ cs <+: textOf parts ∧
      (cs = [] ∨ .literal (String.ofList cs) ∈ parts) := by
  unfold ontoLiteral at mem
  split at mem
  · rename_i u more
    rcases List.mem_cons.mp mem with same | mem
    · cases same
      refine .inr ⟨u.toList, by simp, ?_, .inr ?_⟩
      · rw [textOf_cons]
        exact List.prefix_append _ _
      · rw [String.ofList_toList]
        exact List.mem_cons_self
    · exact .inl (List.mem_cons_of_mem _ mem)
  · rcases List.mem_cons.mp mem with same | mem
    · cases same
      exact .inr ⟨[], by simp, List.nil_prefix, .inl rfl⟩
    · exact .inl mem

/-- A literal run is not empty, and no placeholder is written in it. -/
theorem Divided.free_of_mem (divided : Divided text parts) {t : String}
    (mem : .literal t ∈ parts) : t ≠ "" ∧ ∀ offset p, ¬OccursAt t.toList offset p := by
  induction divided generalizing t with
  | nil => exact nomatch mem
  | param proper behind ih =>
      rcases List.mem_cons.mp mem with same | mem
      · exact nomatch same
      · exact ih mem
  | @literal c rest parts free behind ih =>
      rcases mem_ontoLiteral mem with mem | ⟨cs, grown, front, origin⟩
      · exact ih mem
      · have old : ∀ offset p, ¬OccursAt cs offset p := by
          rcases origin with rfl | mem
          · exact not_occursAt_nil
          · simpa using (ih mem).2
        rw [behind.textOf_eq] at front
        refine ⟨fun empty => by simp [empty] at grown, fun offset p occurs => ?_⟩
        rw [grown] at occurs
        cases offset with
        | zero =>
            have whole : c :: cs <+: c :: rest := List.cons_prefix_cons.mpr ⟨rfl, front⟩
            exact not_occursAt_zero free p (occurs.mono whole)
        | succ offset => exact old offset p occurs

/-- Of two neighbouring pieces one is a parameter. -/
theorem Divided.alternates (divided : Divided text parts) :
    parts.IsChain fun a b => a.param? ≠ none ∨ b.param? ≠ none := by
  induction divided with
  | nil => exact .nil
  | @param p rest parts proper behind ih =>
      cases parts with
      | nil => exact .singleton _
      | cons part parts => exact .cons_cons (.inl nofun) ih
  | @literal c rest parts free behind ih =>
      unfold ontoLiteral
      split
      · refine ih.cons_of_imp ?_
        exact fun next either => either
      · rename_i first
        cases parts with
        | nil => exact .singleton _
        | cons part parts =>
            cases part with
            | literal t => exact absurd rfl (first t parts)
            | param p => exact .cons_cons (.inr nofun) ih

/-! ## Whole routes -/

theorem hasParam_iff {r : Route} {name : String} :
    r.hasParam name = true ↔ ∃ p ∈ r.params, p.name = name := by
  simp [hasParam]

theorem entries_parameters {r : Route} (distinct : (r.params.map (·.name)).Nodup) :
    r.parameters.entries = r.params.map fun p => (p.name, p.hint) :=
  OrderedMap.entries_ofList (by rwa [List.map_map])

theorem get?_parameters_iff {r : Route} (distinct : (r.params.map (·.name)).Nodup)
    {name hint : String} :
    r.parameters.get? name = some hint ↔ ⟨name, hint⟩ ∈ r.params := by
  rw [OrderedMap.get?_eq_some_iff, entries_parameters distinct, List.mem_map]
  constructor
  · rintro ⟨p, mem, same⟩
    cases same
    exact mem
  · intro mem
    exact ⟨_, mem, rfl⟩

/-- Every failure to read a route is a fault of the route. -/
theorem isA_badPath_of_parse {s : String} {e : Error} (failed : parse s = .error e) :
    e.isA .badPath = true := by
  obtain ⟨flaw, rfl⟩ := exists_flaw_of_parse failed
  rfl

/-- A text is read exactly if it is a known method, a blank and a path with a leading slash in
which no name is used for two placeholders. The route is then written as the text; its parameters
are the placeholders of the path in order, and they are what it answers by name; no literal run is
empty, holds a placeholder or stands beside another one. Every failure is a fault of the route, so
the check that a route is written as the text it was read from never fails. -/
theorem reading_exact (s : String) :
    (Succeeds (parse s) ↔ ∃ method path, s = method ++ " " ++ path ∧ method ∈ methods ∧
        path.toList.head? = some '/' ∧ DistinctNames path.toList) ∧
      (∀ r, parse s = .ok r → r.render = s ∧ r.method ∈ methods ∧
        (∃ found, Lists r.path.toList found ∧ r.params = found.map (·.2)) ∧
        (∀ t, .literal t ∈ r.parts → t ≠ "" ∧ ∀ offset p, ¬OccursAt t.toList offset p) ∧
        (r.parts.IsChain fun a b => a.param? ≠ none ∨ b.param? ≠ none) ∧
        (r.parameters.entries = r.params.map fun p => (p.name, p.hint)) ∧
        (∀ name hint, r.parameters.get? name = some hint ↔ ⟨name, hint⟩ ∈ r.params) ∧
        ∀ name, r.hasParam name = true ↔ ∃ p ∈ r.params, p.name = name) ∧
      (∀ e, parse s = .error e → e.isA .badPath = true) ∧
      ∀ written, parse s ≠ .error (.unfaithfulRoute written s) := by
  have names (method path : String) :
      ((Route.mk method (partsOf path)).params.map (·.name)).Nodup ↔ DistinctNames path.toList := by
    obtain ⟨found, lists, same⟩ := (divided_partsOf path).exists_lists
    rw [← lists.nodup_names_iff, ← same]
    rfl
  refine ⟨⟨?_, ?_⟩, fun r read => ?_, fun e => isA_badPath_of_parse, fun written failed =>
    nomatch isA_badPath_of_parse failed⟩
  · rintro ⟨⟨method, _⟩, read⟩
    obtain ⟨path, written, known, slash, rfl, distinct⟩ := parse_eq_ok_iff.mp read
    exact ⟨method, path, written, known, slash, (names method path).mp distinct⟩
  · rintro ⟨method, path, written, known, slash, distinct⟩
    exact ⟨⟨method, partsOf path⟩, parse_eq_ok_iff.mpr
      ⟨path, written, known, slash, rfl, (names method path).mpr distinct⟩⟩
  · obtain ⟨method, _⟩ := r
    obtain ⟨path, -, known, -, rfl, distinct⟩ := parse_eq_ok_iff.mp read
    have divided := divided_partsOf path
    refine ⟨render_of_parse read, known, ?_, fun t => divided.free_of_mem, divided.alternates,
      entries_parameters distinct, fun name hint => get?_parameters_iff distinct,
      fun name => hasParam_iff⟩
    rw [path_partsOf]
    exact divided.exists_lists

end ApiCompiler.Route
