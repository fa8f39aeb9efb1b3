import ApiCompiler.Endpoint
import ApiCompiler.Proofs.Fallible
import ApiCompiler.Proofs.Text

/-!
# Where arguments travel

`ruledKind` says of every argument, without a running state, which kind it gets:
its declared kind, or else the path, the body or the query. `settle` computes it
with one flag that tells whether the body is still free.
-/

namespace ApiCompiler.Endpoint

open Text

variable {route : Route} {args before : List (String × Argument)}

/-- An argument is declared as path argument, but the path has no such
placeholder. -/
def Stray (route : Route) (a : String × Argument) : Prop :=
  a.2.kind = some .path ∧ route.hasParam a.1 = false

instance (route : Route) : DecidablePred (Stray route) :=
  fun _ => inferInstanceAs (Decidable (_ ∧ _))

/-- The names of the stray arguments in the order of declaration. -/
def strayNames (route : Route) (args : List (String × Argument)) : List String :=
  (args.filter (Stray route ·)).map (·.1)

/-- The number of arguments declared as body. -/
def bodyCount (args : List (String × Argument)) : Nat :=
  args.countP (·.2.kind = some .body)

/-- If an argument is called `body` or `request`, only such an argument may claim
the body. -/
def Eligible (args : List (String × Argument)) (name : String) : Prop :=
  name ∈ bodyNames ∨ ∀ a ∈ args, a.1 ∉ bodyNames

instance (args : List (String × Argument)) : DecidablePred (Eligible args) :=
  fun _ => inferInstanceAs (Decidable (_ ∨ _))

/-- An argument that takes the body if no other one has it. -/
def Claimant (route : Route) (args : List (String × Argument)) (a : String × Argument) : Prop :=
  a.2.kind = none ∧ route.hasParam a.1 = false ∧ Eligible args a.1

instance (route : Route) (args : List (String × Argument)) : DecidablePred (Claimant route args) :=
  fun _ => inferInstanceAs (Decidable (_ ∧ _ ∧ _))

/-- Behind the arguments `before` the body is free: the method has one, no
argument is declared as body, and no claimant came before. -/
def BodyFree (route : Route) (args before : List (String × Argument)) : Prop :=
  (route.method = "POST" ∨ route.method = "PUT") ∧
    (∀ a ∈ args, a.2.kind ≠ some .body) ∧ ∀ a ∈ before, ¬Claimant route args a

instance (route : Route) (args before : List (String × Argument)) :
    Decidable (BodyFree route args before) :=
  inferInstanceAs (Decidable (_ ∧ _ ∧ _))

/-- The kind of an argument that stands behind the arguments `before`. -/
def ruledKind (route : Route) (args before : List (String × Argument)) (a : String × Argument) :
    ParamKind :=
  match a.2.kind with
  | some kind => kind
  | none =>
      if route.hasParam a.1 then .path
      else if BodyFree route args before ∧ Claimant route args a then .body
      else .query

/-- The arguments in order, each with the kind that the rule gives it. -/
def ruled (route : Route) (args : List (String × Argument)) : List ResolvedArgument :=
  args.mapIdx fun i a => ⟨a.1, a.2.type, ruledKind route args (args.take i) a⟩

/-! ## One argument after the other -/

theorem ruledKind_of_tagged {a : String × Argument} {kind : ParamKind}
    (tagged : a.2.kind = some kind) : ruledKind route args before a = kind := by
  rw [ruledKind, tagged]

theorem ruledKind_of_param {a : String × Argument} (untagged : a.2.kind = none)
    (param : route.hasParam a.1 = true) : ruledKind route args before a = .path := by
  simp only [ruledKind, untagged, param, if_true]

theorem ruledKind_of_not_param {a : String × Argument} (untagged : a.2.kind = none)
    (notParam : route.hasParam a.1 = false) :
    ruledKind route args before a =
      if BodyFree route args before ∧ Eligible args a.1 then .body else .query := by
  simp only [ruledKind, untagged, notParam, Claimant, Bool.false_eq_true, if_false, true_and]

/-- The body stays free behind an argument that is no claimant, and only there. -/
theorem bodyFree_append_singleton {a : String × Argument} :
    BodyFree route args (before ++ [a]) ↔
      BodyFree route args before ∧ ¬Claimant route args a := by
  simp only [BodyFree, List.forall_mem_append, List.forall_mem_singleton, and_assoc]

/-- One step: the first argument gets the kind of the rule, and the next flag
tells again whether the body is free. -/
theorem settle_cons {mayClaim : String → Bool} {free : Bool} {a : String × Argument}
    (rest : List (String × Argument))
    (may : ∀ name, mayClaim name = true ↔ Eligible args name)
    (isFree : free = true ↔ BodyFree route args before) :
    ∃ next : Bool, (next = true ↔ BodyFree route args (before ++ [a])) ∧
      settle route mayClaim free (a :: rest) =
        ⟨a.1, a.2.type, ruledKind route args before a⟩ :: settle route mayClaim next rest := by
  have kept (noClaimant : BodyFree route args before → ¬Claimant route args a) :
      free = true ↔ BodyFree route args (before ++ [a]) := by
    rw [isFree, bodyFree_append_singleton]
    exact (and_iff_left_of_imp noClaimant).symm
  obtain ⟨name, type, kind⟩ := a
  cases kind with
  | some kind =>
      refine ⟨free, kept (fun _ claimant => nomatch claimant.1), ?_⟩
      rw [settle, ruledKind_of_tagged rfl]
  | none =>
      by_cases param : route.hasParam name = true
      · refine ⟨free, kept fun _ claimant => ?_, ?_⟩
        · exact Bool.false_ne_true (claimant.2.1.symm.trans param)
        · rw [ruledKind_of_param rfl param]
          simp only [settle, param, if_true]
      · rw [Bool.not_eq_true] at param
        have claims_iff : (free && mayClaim name) = true ↔
            BodyFree route args before ∧ Eligible args name := by
          rw [Bool.and_eq_true, isFree, may]
        rw [ruledKind_of_not_param rfl param]
        by_cases claims : BodyFree route args before ∧ Eligible args name
        · refine ⟨false, ?_, ?_⟩
          · rw [bodyFree_append_singleton]
            exact iff_of_false Bool.false_ne_true fun still => still.2 ⟨rfl, param, claims.2⟩
          · simp only [settle, param, Bool.false_eq_true, if_false, claims_iff.mpr claims,
              if_true, if_pos claims]
        · refine ⟨free, kept fun still claimant => claims ⟨still, claimant.2.2⟩, ?_⟩
          simp only [settle, param, Bool.false_eq_true, if_false, claims_iff, if_neg claims]

/-- A run over the arguments behind `before` follows the rule. -/
theorem settle_eq_mapIdx {mayClaim : String → Bool} {free : Bool}
    {rest : List (String × Argument)}
    (may : ∀ name, mayClaim name = true ↔ Eligible args name)
    (isFree : free = true ↔ BodyFree route args before) :
    settle route mayClaim free rest =
      rest.mapIdx fun i a =>
        ⟨a.1, a.2.type, ruledKind route args (before ++ rest.take i) a⟩ := by
  induction rest generalizing before free with
  | nil => rfl
  | cons a rest ih =>
      obtain ⟨next, nextFree, step⟩ := settle_cons rest may isFree
      rw [step, ih nextFree, List.mapIdx_cons, List.take_zero, List.append_nil]
      simp only [List.take_succ_cons, List.append_assoc, List.singleton_append]

/-- At most one argument takes the body in a run, besides those declared so. -/
theorem countP_settle_le (route : Route) (mayClaim : String → Bool) (free : Bool)
    (rest : List (String × Argument)) :
    (settle route mayClaim free rest).countP (·.kind = .body) ≤
      bodyCount rest + if free then 1 else 0 := by
  induction rest generalizing free with
  | nil => exact Nat.zero_le _
  | cons a rest ih =>
      obtain ⟨name, type, kind⟩ := a
      have more := ih free
      have closed := ih false
      simp only [bodyCount] at more closed ⊢
      cases kind with
      | some kind =>
          simp only [settle, List.countP_cons]
          by_cases body : kind = .body <;> simp [body] at more ⊢ <;> omega
      | none =>
          by_cases param : route.hasParam name = true
          · simpa [settle, param] using more
          · rw [Bool.not_eq_true] at param
            by_cases claims : (free && mayClaim name) = true
            · obtain ⟨isFree, mayTake⟩ := Bool.and_eq_true_iff.mp claims
              simp only [Bool.false_eq_true, if_false, Nat.add_zero] at closed
              simpa [settle, param, isFree, mayTake] using closed
            · simpa [settle, param, claims] using more

/-! ## The whole endpoint -/

theorem mayClaim_iff (args : List (String × Argument)) (name : String) :
    (!(bodyNames.any fun n => args.any fun a => a.1 == n) || bodyNames.contains name) = true ↔
      Eligible args name := by
  rw [Bool.or_eq_true, Bool.not_eq_true', List.contains_iff_mem, Or.comm]
  apply or_congr_right
  simp only [List.any_eq_false, List.any_eq_true, beq_iff_eq]
  constructor
  · intro absent a mem named
    exact absent a.1 named ⟨a, mem, rfl⟩
  · rintro absent name named ⟨a, mem, rfl⟩
    exact absent a mem named

theorem bodyFree_nil_iff (route : Route) (args : List (String × Argument)) :
    ((args.filter fun a => a.2.kind == some .body).isEmpty &&
        (route.method == "POST" || route.method == "PUT")) = true ↔
      BodyFree route args [] := by
  rw [Bool.and_eq_true, Bool.or_eq_true, beq_iff_eq, beq_iff_eq, List.isEmpty_iff,
    List.filter_eq_nil_iff, and_comm]
  simp only [BodyFree, beq_iff_eq, List.not_mem_nil, false_imp_iff, implies_true, and_true, ne_eq]

theorem isStray_eq (route : Route) (a : String × Argument) :
    (a.2.kind == some .path && !route.hasParam a.1) = decide (Stray route a) := by
  rw [Bool.eq_iff_iff, Bool.and_eq_true, beq_iff_eq, Bool.not_eq_true', decide_eq_true_iff]
  rfl

theorem bodyCount_eq (args : List (String × Argument)) :
    bodyCount args = (args.filter fun a => a.2.kind == some .body).length := by
  rw [bodyCount, List.countP_eq_length_filter]
  simp only [beq_eq_decide]

/-- Stray arguments are reported before anything else, then several bodies; all
other endpoints get their kinds by the rule. -/
theorem resolve_eq (route : Route) (args : List (String × Argument)) :
    resolve route args =
      if strayNames route args ≠ [] then
        .error (.route (.strayArguments route.render (sort (strayNames route args))))
      else if bodyCount args > 1 then .error (.argument .severalBodies)
      else .ok (ruled route args) := by
  rw [bodyCount_eq]
  simp only [resolve, strayNames, isStray_eq, Bool.not_eq_true', List.isEmpty_eq_false_iff, ne_eq,
    List.map_eq_nil_iff]
  congr 2
  rw [settle_eq_mapIdx (mayClaim_iff args) (bodyFree_nil_iff route args)]
  rfl

theorem map_ruled (route : Route) (args : List (String × Argument)) :
    (ruled route args).map (fun r => (r.name, r.type)) = args.map fun a => (a.1, a.2.type) := by
  apply List.ext_getElem
  · simp [ruled]
  · intro i _ _
    simp [ruled]

theorem mem_ruled {r : ResolvedArgument} (mem : r ∈ ruled route args) :
    ∃ i, ∃ bound : i < args.length,
      r = ⟨args[i].1, args[i].2.type, ruledKind route args (args.take i) args[i]⟩ := by
  obtain ⟨i, bound, eq⟩ := List.mem_mapIdx.mp mem
  exact ⟨i, bound, eq.symm⟩

/-- At most one argument travels in the body. -/
theorem countP_ruled_le_one (single : bodyCount args ≤ 1) :
    (ruled route args).countP (·.kind = .body) ≤ 1 := by
  have bound := countP_settle_le route
    (fun name => !(bodyNames.any fun n => args.any fun a => a.1 == n) || bodyNames.contains name)
    (decide (BodyFree route args [])) args
  rw [settle_eq_mapIdx (mayClaim_iff args) decide_eq_true_iff] at bound
  by_cases free : BodyFree route args []
  · have noBody : bodyCount args = 0 := by
      rw [bodyCount, List.countP_eq_zero]
      intro a mem
      simpa using free.2.1 a mem
    simpa [ruled, free, noBody] using bound
  · simp only [free, decide_false, Bool.false_eq_true, if_false, Nat.add_zero] at bound
    exact Nat.le_trans bound single

/-- Without stray arguments every path argument is a placeholder of the path. -/
theorem hasParam_of_mem_ruled (noStray : strayNames route args = []) {r : ResolvedArgument}
    (mem : r ∈ ruled route args) (path : r.kind = .path) : route.hasParam r.name = true := by
  obtain ⟨i, bound, rfl⟩ := mem_ruled mem
  cases declared : args[i].2.kind with
  | some kind =>
      have isPath : kind = .path := (ruledKind_of_tagged declared).symm.trans path
      subst kind
      rw [strayNames, List.map_eq_nil_iff, List.filter_eq_nil_iff] at noStray
      have notStray := noStray args[i] (List.getElem_mem bound)
      by_contra noParam
      rw [Bool.not_eq_true] at noParam
      exact notStray (decide_eq_true ⟨declared, noParam⟩)
  | none =>
      by_cases param : route.hasParam args[i].1 = true
      · exact param
      · rw [Bool.not_eq_true] at param
        have notPath := (ruledKind_of_not_param declared param).symm.trans path
        split at notPath <;> contradiction

/-- The kinds that a declaration may give to an argument. -/
def declarableKinds : List ParamKind := [.body, .cookie, .header, .path, .query]

/-- If only such kinds are declared, every argument gets one of them. -/
theorem kind_mem_of_mem_ruled
    (declarable : ∀ a ∈ args, ∀ kind, a.2.kind = some kind → kind ∈ declarableKinds)
    {r : ResolvedArgument} (mem : r ∈ ruled route args) : r.kind ∈ declarableKinds := by
  obtain ⟨i, bound, rfl⟩ := mem_ruled mem
  change ruledKind route args (args.take i) args[i] ∈ declarableKinds
  cases declared : args[i].2.kind with
  | some kind =>
      rw [ruledKind_of_tagged declared]
      exact declarable _ (List.getElem_mem bound) kind declared
  | none =>
      by_cases param : route.hasParam args[i].1 = true
      · rw [ruledKind_of_param declared param]
        decide
      · rw [Bool.not_eq_true] at param
        rw [ruledKind_of_not_param declared param]
        split <;> decide

/-- An endpoint with stray arguments is refused with exactly their names in increasing order, and
otherwise one with several bodies is refused. Every other endpoint gets one argument for each
declared one, with its name and type and the kind that the rule gives it: so at most one travels
in the body, every path argument is a placeholder of the path, and no kind is empty or reserved
for credentials unless it was declared. -/
theorem resolveArguments_exact (e : Endpoint) :
    (strayNames e.route e.argumentList ≠ [] →
      ∃ names, names.Perm (strayNames e.route e.argumentList) ∧
        names.Pairwise (fun a b => le a b = true) ∧
        e.resolveArguments = .error (.route (.strayArguments e.route.render names)) ∧
        (Error.route (.strayArguments e.route.render names)).isA .badPath = true) ∧
      (strayNames e.route e.argumentList = [] → 1 < bodyCount e.argumentList →
        e.resolveArguments = .error (.argument .severalBodies) ∧
          (Error.argument .severalBodies).isA .argument = true) ∧
      (strayNames e.route e.argumentList = [] → bodyCount e.argumentList ≤ 1 →
        ∃ out, e.resolveArguments = .ok out ∧ out = ruled e.route e.argumentList ∧
          out.map (fun r => (r.name, r.type)) = e.argumentList.map (fun a => (a.1, a.2.type)) ∧
          out.countP (·.kind = .body) ≤ 1 ∧
          (∀ r ∈ out, r.kind = .path → e.route.hasParam r.name = true) ∧
          ((∀ a ∈ e.argumentList, ∀ kind, a.2.kind = some kind → kind ∈ declarableKinds) →
            ∀ r ∈ out, r.kind.text ≠ "" ∧ r.kind ≠ .auth)) := by
  refine ⟨fun stray => ?_, fun noStray several => ?_, fun noStray single => ?_⟩
  · refine ⟨sort (strayNames e.route e.argumentList), sort_perm _, pairwise_sort _, ?_, rfl⟩
    rw [resolveArguments, resolve_eq, if_pos stray]
  · rw [resolveArguments, resolve_eq, if_neg (not_not_intro noStray), if_pos several]
    exact ⟨rfl, rfl⟩
  · refine ⟨_, ?_, rfl, map_ruled _ _, countP_ruled_le_one single,
      fun r mem => hasParam_of_mem_ruled noStray mem, fun declarable r mem => ?_⟩
    · rw [resolveArguments, resolve_eq, if_neg (not_not_intro noStray),
        if_neg (Nat.not_lt_of_le single)]
    · have kinds := kind_mem_of_mem_ruled declarable mem
      revert kinds
      generalize r.kind = kind
      revert kind
      decide

end ApiCompiler.Endpoint

/-! ## Resolving arguments again

Where arguments travel depends on their names and declared kinds, not on their types.
Arguments that already have the kinds they were given are left as they are.
-/

namespace ApiCompiler

/-- A resolved argument without its type. -/
def ResolvedArgument.place (r : ResolvedArgument) : String × ParamKind := (r.name, r.kind)

/-- A resolved argument as a declaration of its kind. -/
def ResolvedArgument.declaration (r : ResolvedArgument) : String × Argument :=
  (r.name, ⟨r.type, some r.kind⟩)

namespace Endpoint

open Fallible

variable {route : Route} {args other : List (String × Argument)} {out : List ResolvedArgument}

/-- A declared argument without its type. -/
def signature (a : String × Argument) : String × Option ParamKind := (a.1, a.2.kind)

theorem resolve_eq_ok_iff :
    resolve route args = .ok out ↔
      strayNames route args = [] ∧ bodyCount args ≤ 1 ∧ out = ruled route args := by
  rw [resolve_eq]
  split
  · rename_i stray
    simp [stray]
  · rename_i none
    split
    · rename_i several
      simp [Nat.not_le_of_lt several]
    · rename_i single
      simp [not_not.mp none, Nat.not_lt.mp single, eq_comm]

theorem names_of_resolve (resolved : resolve route args = .ok out) :
    out.map (·.name) = args.map (·.1) := by
  obtain ⟨-, -, rfl⟩ := resolve_eq_ok_iff.mp resolved
  have pairs := congrArg (List.map Prod.fst) (map_ruled route args)
  rw [List.map_map, List.map_map] at pairs
  exact pairs

/-! ## Other types -/

theorem settle_congr (mayClaim : String → Bool) (free : Bool)
    (same : args.map signature = other.map signature) :
    (settle route mayClaim free args).map ResolvedArgument.place =
      (settle route mayClaim free other).map ResolvedArgument.place := by
  induction args generalizing other free with
  | nil =>
      rw [List.map_nil, eq_comm, List.map_eq_nil_iff] at same
      rw [same]
  | cons a rest ih =>
      obtain ⟨b, more, rfl, signed, others⟩ := List.map_eq_cons_iff.mp same.symm
      obtain ⟨name, type, kind⟩ := a
      obtain ⟨name', type', kind'⟩ := b
      obtain ⟨rfl, rfl⟩ := Prod.mk.inj signed
      have next (free : Bool) := ih free others.symm
      cases kind' with
      | some kind => simp [settle, ResolvedArgument.place, next]
      | none =>
          simp only [settle]
          split
          · simp [ResolvedArgument.place, next]
          · split
            · simp [ResolvedArgument.place, next]
            · simp [ResolvedArgument.place, next]

theorem ruled_eq_settle (route : Route) (args : List (String × Argument)) :
    ruled route args =
      settle route (fun name => decide (Eligible args name)) (decide (BodyFree route args []))
        args := by
  rw [settle_eq_mapIdx (fun _ => decide_eq_true_iff) decide_eq_true_iff]
  rfl

theorem forall_signature_congr (same : args.map signature = other.map signature)
    (holds : String × Option ParamKind → Prop) :
    (∀ a ∈ args, holds (signature a)) ↔ ∀ a ∈ other, holds (signature a) := by
  rw [← List.forall_mem_map, same, List.forall_mem_map]

theorem eligible_congr (same : args.map signature = other.map signature) (name : String) :
    Eligible args name ↔ Eligible other name :=
  or_congr_right (forall_signature_congr same fun s => s.1 ∉ bodyNames)

theorem bodyFree_congr (same : args.map signature = other.map signature) :
    BodyFree route args [] ↔ BodyFree route other [] := by
  have bodies := forall_signature_congr same fun s => s.2 ≠ some .body
  simp only [BodyFree, List.not_mem_nil, false_imp_iff, implies_true, and_true]
  exact and_congr_right fun _ => bodies

theorem strayNames_eq_nil_congr (same : args.map signature = other.map signature) :
    strayNames route args = [] ↔ strayNames route other = [] := by
  have stray := forall_signature_congr same fun s =>
    ¬(s.2 = some .path ∧ route.hasParam s.1 = false)
  simp only [strayNames, List.map_eq_nil_iff, List.filter_eq_nil_iff, decide_eq_true_iff]
  exact stray

theorem bodyCount_congr (same : args.map signature = other.map signature) :
    bodyCount args = bodyCount other := by
  have count (as : List (String × Argument)) :
      bodyCount as = (as.map signature).countP (·.2 = some .body) := by
    rw [List.countP_map]
    rfl
  rw [count, same, ← count]

/-- Arguments of other types travel in the same places. -/
theorem resolve_congr (same : args.map signature = other.map signature)
    (resolved : resolve route args = .ok out) :
    ∃ again, resolve route other = .ok again ∧
      again.map ResolvedArgument.place = out.map ResolvedArgument.place := by
  obtain ⟨noStray, single, rfl⟩ := resolve_eq_ok_iff.mp resolved
  refine ⟨ruled route other, resolve_eq_ok_iff.mpr ⟨?_, ?_, rfl⟩, ?_⟩
  · exact (strayNames_eq_nil_congr same).mp noStray
  · rw [← bodyCount_congr same]
    exact single
  · simp only [ruled_eq_settle, eligible_congr same, bodyFree_congr same]
    exact (settle_congr _ _ same).symm

/-! ## The same kinds -/

theorem ruled_declaration (route : Route) (out : List ResolvedArgument) :
    ruled route (out.map ResolvedArgument.declaration) = out := by
  refine List.ext_getElem (by simp [ruled]) fun i _ _ => ?_
  simp only [ruled, List.getElem_mapIdx, List.getElem_map]
  rw [ruledKind_of_tagged rfl]
  rfl

/-- Arguments that declare the kinds they were given get them again. -/
theorem resolve_declaration (resolved : resolve route args = .ok out) :
    resolve route (out.map ResolvedArgument.declaration) = .ok out := by
  obtain ⟨noStray, single, rfl⟩ := resolve_eq_ok_iff.mp resolved
  refine resolve_eq_ok_iff.mpr ⟨?_, ?_, (ruled_declaration route _).symm⟩
  · rw [strayNames, List.map_eq_nil_iff, List.filter_eq_nil_iff]
    intro a mem
    obtain ⟨r, inside, rfl⟩ := List.mem_map.mp mem
    intro stray
    obtain ⟨path, missing⟩ := of_decide_eq_true stray
    have param := hasParam_of_mem_ruled noStray inside (Option.some.inj path)
    exact Bool.false_ne_true (missing.symm.trans param)
  · have count : bodyCount ((ruled route args).map ResolvedArgument.declaration) =
        (ruled route args).countP (·.kind = .body) := by
      simp [bodyCount, ResolvedArgument.declaration, List.countP_map, Function.comp_def]
    rw [count]
    exact countP_ruled_le_one single

end Endpoint

end ApiCompiler
