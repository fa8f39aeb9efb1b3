import ApiCompiler.Convert.Converter
import ApiCompiler.Proofs.Datatype.Tree

/-!
# The structural interpretation of a type

A converter folds the tree of a reference from the leaves up. `Admits` says which
nodes it can convert, `complete` what it does with a node whose parameters are
converted, and `Faults` what it reports of the others. The visitor may have any
state, so the order of its calls matters: parameters from left to right, then the
node.
-/

namespace ApiCompiler.Converter

variable {S T : Type} {c : Converter T} {visit : Visitor S T} {d : Datatype}

/-- A node that can be converted: a name of the table with as many parameters as
its template takes, or the plain name of a custom type. -/
def Admits (c : Converter T) (node : Datatype) : Prop :=
  match c.backend.templates.get? node.name with
  | some template => node.params.length = Templates.arityOf template
  | none => node.params? = none ∧ (c.project.findType node.name).isSome = true

/-- What is reported of a node that cannot be converted. -/
inductive Faults (c : Converter T) (node : Datatype) : Error → Prop
  | arity {template : String} (builtin : c.backend.templates.get? node.name = some template)
      (wrong : node.params.length ≠ Templates.arityOf template) :
      Faults c node (.arity node.name (Templates.arityOf template) node.params.length)
  | parametrised (custom : c.backend.templates.get? node.name = none)
      (generic : node.params? ≠ none) : Faults c node (.parametrised node.name)
  | unresolved (custom : c.backend.templates.get? node.name = none)
      (plain : node.params? = none) (unknown : c.project.findType node.name = none) :
      Faults c node (.unresolved node.name)

/-- The error is what is reported of the first node that cannot be converted. -/
def FirstFault (c : Converter T) (nodes : List Datatype) (e : Error) : Prop :=
  ∃ before node after, nodes = before ++ node :: after ∧
    (∀ b ∈ before, c.Admits b) ∧ c.Faults node e

/-- What the visitor is shown of a node whose parameters are converted. -/
def view (c : Converter T) (node : Datatype) (values : List T) : Option (Visit T) :=
  match c.backend.templates.get? node.name with
  | some template => some ⟨c.backend.render node.name template values, node, none⟩
  | none =>
      (c.project.findType node.name).map fun loc => ⟨c.backend.reference loc, node, some loc⟩

/-- The visitor's answer for a node whose parameters are converted. -/
def complete (c : Converter T) (visit : Visitor S T) (node : Datatype) (values : List T) :
    StateT S Option T :=
  fun s => (c.view node values).map fun v => visit v s

/-- The visitor that also keeps a list of the calls. -/
def logged (visit : Visitor S T) : Visitor (S × List (Visit T)) T := fun v (s, calls) =>
  let (t, s') := visit v s
  (t, (s', calls ++ [v]))

theorem view_datatype {values : List T} {v : Visit T} (shown : c.view d values = some v) :
    v.datatype = d := by
  rw [view] at shown
  split at shown
  · cases shown
    rfl
  · obtain ⟨loc, -, rfl⟩ := Option.map_eq_some_iff.mp shown
    rfl

theorem complete_eq_some_iff {values : List T} {s : S} {r : T × S} :
    c.complete visit d values s = some r ↔
      ∃ v, c.view d values = some v ∧ visit v s = r :=
  Option.map_eq_some_iff

/-! ## Faults -/

/-- A node either can be converted or has a fault. -/
theorem not_admits_iff : ¬c.Admits d ↔ ∃ e, c.Faults d e := by
  cases found : c.backend.templates.get? d.name with
  | some template =>
      rw [Admits, found]
      constructor
      · exact fun wrong => ⟨_, .arity found wrong⟩
      · rintro ⟨_, ⟨builtin, wrong⟩ | ⟨custom, _⟩ | ⟨custom, _, _⟩⟩
        · rw [found] at builtin
          cases builtin
          exact wrong
        · exact nomatch found.symm.trans custom
        · exact nomatch found.symm.trans custom
  | none =>
      rw [Admits, found]
      constructor
      · intro refused
        by_cases plain : d.params? = none
        · have unknown : c.project.findType d.name = none := by simpa [plain] using refused
          exact ⟨_, .unresolved found plain unknown⟩
        · exact ⟨_, .parametrised found plain⟩
      · rintro ⟨_, ⟨builtin, _⟩ | ⟨_, generic⟩ | ⟨_, _, unknown⟩⟩ ⟨plain, known⟩
        · exact nomatch found.symm.trans builtin
        · exact generic plain
        · rw [unknown] at known
          exact nomatch known

/-- A fault belongs to the class of arity errors for a name of the table, and to
that of unresolved types for every other name. -/
theorem Faults.isA {e : Error} (faults : c.Faults d e) :
    e.isA .arity = (c.backend.templates.get? d.name).isSome ∧
      e.isA .unresolvedType = (c.backend.templates.get? d.name).isNone := by
  cases faults with
  | arity builtin wrong =>
      rw [builtin]
      exact ⟨rfl, rfl⟩
  | parametrised custom generic =>
      rw [custom]
      exact ⟨rfl, rfl⟩
  | unresolved custom plain unknown =>
      rw [custom]
      exact ⟨rfl, rfl⟩

theorem FirstFault.append_right {nodes : List Datatype} {e : Error}
    (first : c.FirstFault nodes e) (more : List Datatype) : c.FirstFault (nodes ++ more) e := by
  obtain ⟨before, node, after, rfl, admitted, faults⟩ := first
  refine ⟨before, node, after ++ more, ?_, admitted, faults⟩
  rw [List.append_assoc, List.cons_append]

theorem FirstFault.append_left {nodes admitted : List Datatype} {e : Error}
    (first : c.FirstFault nodes e) (admits : ∀ b ∈ admitted, c.Admits b) :
    c.FirstFault (admitted ++ nodes) e := by
  obtain ⟨before, node, after, rfl, more, faults⟩ := first
  refine ⟨admitted ++ before, node, after, ?_, ?_, faults⟩
  · rw [List.append_assoc]
  · exact List.forall_mem_append.mpr ⟨admits, more⟩

theorem FirstFault.not_admitted {nodes : List Datatype} {e : Error}
    (first : c.FirstFault nodes e) : ¬∀ node ∈ nodes, c.Admits node := by
  obtain ⟨before, node, after, rfl, -, faults⟩ := first
  intro admitted
  exact not_admits_iff.mpr ⟨e, faults⟩
    (admitted node (List.mem_append_right before List.mem_cons_self))

/-! ## One node -/

/-- A conversion goes on from the state that it has reached, unless it failed. -/
theorem bind_apply {α β : Type} (run : ExceptT Error (StateM S) α)
    (next : α → ExceptT Error (StateM S) β) (s : S) :
    (run >>= next) s =
      match run s with
      | (.ok value, middle) => next value middle
      | (.error e, middle) => (.error e, middle) := by
  change StateT.bind run (ExceptT.bindCont next) s = _
  rw [StateT.bind]
  change (match run s with | (a, middle) => ExceptT.bindCont next a middle) = _
  rcases run s with ⟨e | value, middle⟩ <;> rfl

/-- Both forms of a reference are converted alike: with a template the number of
parameters is checked before any of them is converted, without one there may be
no parameter list. -/
theorem resolve_eq (c : Converter T) (visit : Visitor S T) (d : Datatype) :
    c.resolve visit d =
      match c.backend.templates.get? d.name with
      | some template =>
          if d.params.length = Templates.arityOf template then do
            let values ← c.resolveAll visit d.params
            c.resolveBuiltin visit d template values
          else throw (.arity d.name (Templates.arityOf template) d.params.length)
      | none =>
          if d.isGeneric then throw (.parametrised d.name) else c.resolveCustom visit d.name := by
  rcases d with ⟨name, _ | params⟩
  · rw [resolve, Datatype.name_mk]
    cases c.backend.templates.get? name with
    | none => rfl
    | some template =>
        by_cases arity : Templates.arityOf template = 0
        · simp only [arity, bne_self_eq_false, Bool.false_eq_true, if_false]
          rfl
        · have wrong : ¬(Datatype.mk name none).params.length = Templates.arityOf template :=
            fun eq => arity eq.symm
          dsimp only
          rw [if_pos (bne_iff_ne.mpr arity), if_neg wrong]
          rfl
  · rw [resolve, Datatype.name_mk]
    cases c.backend.templates.get? name with
    | none => rfl
    | some template =>
        by_cases arity : Templates.arityOf template = params.length
        · simp only [arity, bne_self_eq_false, Bool.false_eq_true, if_false,
            Datatype.params_mk_some, if_true]
        · have wrong : ¬(Datatype.mk name (some params)).params.length =
              Templates.arityOf template := fun eq => arity eq.symm
          dsimp only
          rw [if_pos (bne_iff_ne.mpr arity), if_neg wrong]
          rfl

/-- A node with a fault is reported before anything else happens. -/
theorem resolve_of_faults {e : Error} (faults : c.Faults d e) (s : S) :
    c.resolve visit d s = (.error e, s) := by
  rw [resolve_eq]
  cases faults with
  | arity builtin wrong =>
      rw [builtin]
      dsimp only
      rw [if_neg wrong]
      rfl
  | parametrised custom generic =>
      have isGeneric : d.isGeneric = true := Option.isSome_iff_ne_none.mpr generic
      rw [custom]
      dsimp only
      rw [if_pos isGeneric]
      rfl
  | unresolved custom plain unknown =>
      have notGeneric : ¬d.isGeneric = true := by rw [Datatype.isGeneric, plain]; decide
      rw [custom]
      dsimp only
      rw [if_neg notGeneric, resolveCustom, unknown]
      rfl

/-- An admitted node first has its parameters converted, and is then shown to the
visitor. -/
theorem resolve_of_admits (visit : Visitor S T) (admits : c.Admits d) (s : S) :
    (∃ e middle, c.resolveAll visit d.params s = (.error e, middle) ∧
        c.resolve visit d s = (.error e, middle)) ∨
      ∃ values middle v, c.resolveAll visit d.params s = (.ok values, middle) ∧
        c.view d values = some v ∧
        c.resolve visit d s = (.ok (visit v middle).1, (visit v middle).2) := by
  rw [Admits] at admits
  cases found : c.backend.templates.get? d.name with
  | some template =>
      rw [found] at admits
      dsimp only at admits
      rw [resolve_eq, found]
      dsimp only
      rw [if_pos admits, bind_apply]
      rcases c.resolveAll visit d.params s with ⟨e | values, middle⟩
      · exact Or.inl ⟨e, middle, rfl, rfl⟩
      · exact Or.inr ⟨values, middle, _, rfl, by rw [view, found], rfl⟩
  | none =>
      rw [found] at admits
      obtain ⟨plain, known⟩ := admits
      obtain ⟨loc, located⟩ := Option.isSome_iff_exists.mp known
      rcases d with ⟨name, _ | params⟩
      · refine Or.inr ⟨[], s, ⟨c.backend.reference loc, .mk name none, some loc⟩, rfl, ?_, ?_⟩
        · rw [view, found, located]
          rfl
        · rw [Datatype.name_mk] at found located
          rw [resolve, found, resolveCustom, located]
          rfl
      · exact nomatch plain

/-- A conversion reaches a value exactly at an admitted node, from the values of
the parameters and by the visitor's answer. -/
theorem resolve_eq_ok_iff {s s' : S} {t : T} :
    c.resolve visit d s = (.ok t, s') ↔
      c.Admits d ∧ ∃ values middle, c.resolveAll visit d.params s = (.ok values, middle) ∧
        c.complete visit d values middle = some (t, s') := by
  constructor
  · intro result
    by_cases admits : c.Admits d
    · refine ⟨admits, ?_⟩
      rcases resolve_of_admits visit admits s with
        ⟨e, middle, -, failed⟩ | ⟨values, middle, v, parameters, shown, done⟩
      · exact nomatch failed.symm.trans result
      · refine ⟨values, middle, parameters, complete_eq_some_iff.mpr ⟨v, shown, ?_⟩⟩
        cases done.symm.trans result
        rfl
    · obtain ⟨e, faults⟩ := not_admits_iff.mp admits
      exact nomatch (resolve_of_faults faults s).symm.trans result
  · rintro ⟨admits, values, middle, parameters, completed⟩
    obtain ⟨v, shown, answer⟩ := complete_eq_some_iff.mp completed
    rcases resolve_of_admits visit admits s with
      ⟨e, stop, failed, -⟩ | ⟨values', middle', v', parameters', shown', done⟩
    · exact nomatch failed.symm.trans parameters
    · cases parameters'.symm.trans parameters
      cases shown'.symm.trans shown
      rw [done, answer]

/-- A conversion fails with the fault of the node, or with a failure of one of its
parameters if it has none. -/
theorem resolve_eq_error {s s' : S} {e : Error} (result : c.resolve visit d s = (.error e, s')) :
    c.Faults d e ∨ c.Admits d ∧ c.resolveAll visit d.params s = (.error e, s') := by
  by_cases admits : c.Admits d
  · rcases resolve_of_admits visit admits s with
      ⟨e', middle, parameters, failed⟩ | ⟨values, middle, v, -, -, done⟩
    · cases failed.symm.trans result
      exact Or.inr ⟨admits, parameters⟩
    · exact nomatch done.symm.trans result
  · obtain ⟨e', faults⟩ := not_admits_iff.mp admits
    cases (resolve_of_faults faults s).symm.trans result
    exact Or.inl faults

/-! ## Lists of parameters -/

theorem resolveAll_cons_eq_ok_iff {rest : List Datatype} {s s' : S} {ts : List T} :
    c.resolveAll visit (d :: rest) s = (.ok ts, s') ↔
      ∃ value middle values, c.resolve visit d s = (.ok value, middle) ∧
        c.resolveAll visit rest middle = (.ok values, s') ∧ ts = value :: values := by
  rw [resolveAll, bind_apply]
  rcases c.resolve visit d s with ⟨e | value, middle⟩
  · constructor
    · intro result
      exact nomatch result
    · rintro ⟨_, _, _, first, -, -⟩
      exact nomatch first
  · dsimp only
    rw [bind_apply]
    constructor
    · intro result
      cases others : c.resolveAll visit rest middle with
      | mk outcome last =>
          rw [others] at result
          cases outcome with
          | error e => exact nomatch result
          | ok values =>
              cases result
              exact ⟨value, middle, values, rfl, others, rfl⟩
    · rintro ⟨_, _, values, first, others, rfl⟩
      cases first
      rw [others]
      rfl

theorem resolveAll_cons_eq_error {rest : List Datatype} {s s' : S} {e : Error}
    (result : c.resolveAll visit (d :: rest) s = (.error e, s')) :
    c.resolve visit d s = (.error e, s') ∨
      ∃ value middle, c.resolve visit d s = (.ok value, middle) ∧
        c.resolveAll visit rest middle = (.error e, s') := by
  rw [resolveAll, bind_apply] at result
  rcases first : c.resolve visit d s with ⟨e' | value, middle⟩
  · rw [first] at result
    cases result
    exact Or.inl rfl
  · rw [first] at result
    dsimp only at result
    rw [bind_apply] at result
    rcases others : c.resolveAll visit rest middle with ⟨e' | values, last⟩
    · rw [others] at result
      cases result
      exact Or.inr ⟨value, middle, rfl, others⟩
    · rw [others] at result
      exact nomatch result

/-! ## Trees -/

/-- If every parameter is converted along the fold, so is their list: both pass
through the same states. -/
theorem resolveAll_eq_ok_iff_foldAllM {ds : List Datatype}
    (each : ∀ p ∈ ds, ∀ (s s' : S) (t : T), c.resolve visit p s = (.ok t, s') ↔
      (∀ node ∈ p.nodes, c.Admits node) ∧ p.foldM (c.complete visit) s = some (t, s'))
    (s s' : S) (ts : List T) :
    c.resolveAll visit ds s = (.ok ts, s') ↔
      (∀ node ∈ Datatype.nodesOf ds, c.Admits node) ∧
        Datatype.foldAllM (c.complete visit) ds s = some (ts, s') := by
  induction ds generalizing s ts with
  | nil =>
      constructor
      · intro result
        cases result
        exact ⟨List.forall_mem_nil _, rfl⟩
      · rintro ⟨-, result⟩
        cases result
        rfl
  | cons p rest ih =>
      have first := each p List.mem_cons_self
      have others := ih fun q mem => each q (List.mem_cons_of_mem p mem)
      rw [resolveAll_cons_eq_ok_iff, Datatype.nodesOf, List.forall_mem_append,
        Datatype.foldAllM_cons_eq_some_iff]
      constructor
      · rintro ⟨value, middle, values, converted, more, eq⟩
        obtain ⟨admitted, folded⟩ := (first s middle value).mp converted
        obtain ⟨admittedRest, foldedRest⟩ := (others middle values).mp more
        exact ⟨⟨admitted, admittedRest⟩, value, middle, values, folded, foldedRest, eq⟩
      · rintro ⟨⟨admitted, admittedRest⟩, value, middle, values, folded, foldedRest, eq⟩
        exact ⟨value, middle, values, (first s middle value).mpr ⟨admitted, folded⟩,
          (others middle values).mpr ⟨admittedRest, foldedRest⟩, eq⟩

/-- A conversion reaches a value exactly if every node can be converted and the
fold reaches the same value. -/
theorem resolve_eq_ok_iff_foldM (d : Datatype) (s s' : S) (t : T) :
    c.resolve visit d s = (.ok t, s') ↔
      (∀ node ∈ d.nodes, c.Admits node) ∧ d.foldM (c.complete visit) s = some (t, s') := by
  induction d using Datatype.induction_params generalizing s s' t with
  | node d ih =>
      have parameters := resolveAll_eq_ok_iff_foldAllM ih
      rw [resolve_eq_ok_iff, Datatype.nodes_eq_cons, List.forall_mem_cons,
        Datatype.foldM_eq_some_iff]
      constructor
      · rintro ⟨admits, values, middle, converted, completed⟩
        obtain ⟨admitted, folded⟩ := (parameters s middle values).mp converted
        exact ⟨⟨admits, admitted⟩, values, middle, folded, completed⟩
      · rintro ⟨⟨admits, admitted⟩, values, middle, folded, completed⟩
        exact ⟨admits, values, middle, (parameters s middle values).mpr ⟨admitted, folded⟩,
          completed⟩

theorem firstFault_of_resolveAll {ds : List Datatype} {s s' : S} {e : Error}
    (each : ∀ p ∈ ds, ∀ s s' : S, c.resolve visit p s = (.error e, s') → c.FirstFault p.nodes e)
    (result : c.resolveAll visit ds s = (.error e, s')) :
    c.FirstFault (Datatype.nodesOf ds) e := by
  induction ds generalizing s with
  | nil => exact nomatch result
  | cons p rest ih =>
      rw [Datatype.nodesOf]
      rcases resolveAll_cons_eq_error result with failed | ⟨value, middle, converted, failed⟩
      · exact (each p List.mem_cons_self s s' failed).append_right _
      · have later := ih (fun q mem => each q (List.mem_cons_of_mem p mem)) failed
        exact later.append_left ((resolve_eq_ok_iff_foldM p s middle value).mp converted).1

/-- A conversion that fails reports the first node with a fault. A node is checked
before its parameters, although the visitor sees it behind them. -/
theorem firstFault_of_resolve {s s' : S} {e : Error}
    (result : c.resolve visit d s = (.error e, s')) : c.FirstFault d.nodes e := by
  induction d using Datatype.induction_params generalizing s s' with
  | node d ih =>
      rw [Datatype.nodes_eq_cons]
      rcases resolve_eq_error result with faults | ⟨admits, failed⟩
      · exact ⟨[], d, _, rfl, List.forall_mem_nil _, faults⟩
      · have below := firstFault_of_resolveAll (fun p mem s s' => ih p mem) failed
        exact below.append_left (List.forall_mem_singleton.mpr admits)

/-- Every tree of admitted nodes is converted. -/
theorem exists_resolve_eq_ok_iff {s : S} :
    (∃ t s', c.resolve visit d s = (.ok t, s')) ↔ ∀ node ∈ d.nodes, c.Admits node := by
  constructor
  · rintro ⟨t, s', result⟩
    exact ((resolve_eq_ok_iff_foldM d s s' t).mp result).1
  · intro admitted
    rcases result : c.resolve visit d s with ⟨e | t, s'⟩
    · exact absurd admitted (firstFault_of_resolve result).not_admitted
    · exact ⟨t, s', rfl⟩

theorem resolveAll_logged {ds : List Datatype} {s s' : S} {ts : List T}
    (each : ∀ p ∈ ds, ∀ (s s' : S) (t : T) (log : List (Visit T)),
      c.resolve visit p s = (.ok t, s') → ∃ calls,
        c.resolve (logged visit) p (s, log) = (.ok t, (s', log ++ calls)) ∧
          calls.map (·.datatype) = p.postorder)
    (log : List (Visit T)) (result : c.resolveAll visit ds s = (.ok ts, s')) :
    ∃ calls, c.resolveAll (logged visit) ds (s, log) = (.ok ts, (s', log ++ calls)) ∧
      calls.map (·.datatype) = Datatype.postorderOf ds := by
  induction ds generalizing s ts log with
  | nil =>
      cases result
      exact ⟨[], by rw [List.append_nil]; rfl, rfl⟩
  | cons p rest ih =>
      obtain ⟨value, middle, values, converted, more, rfl⟩ :=
        resolveAll_cons_eq_ok_iff.mp result
      obtain ⟨calls, first, order⟩ := each p List.mem_cons_self s middle value log converted
      obtain ⟨later, others, orderRest⟩ :=
        ih (fun q mem => each q (List.mem_cons_of_mem p mem)) (log ++ calls) more
      refine ⟨calls ++ later, resolveAll_cons_eq_ok_iff.mpr ?_, ?_⟩
      · rw [List.append_assoc] at others
        exact ⟨value, _, values, first, others, rfl⟩
      · rw [List.map_append, order, orderRest, Datatype.postorderOf]

/-- A conversion that reaches a value has shown every node to the visitor once,
behind the nodes of its parameters. -/
theorem resolve_logged (d : Datatype) (s s' : S) (t : T) (log : List (Visit T))
    (result : c.resolve visit d s = (.ok t, s')) :
    ∃ calls, c.resolve (logged visit) d (s, log) = (.ok t, (s', log ++ calls)) ∧
      calls.map (·.datatype) = d.postorder := by
  induction d using Datatype.induction_params generalizing s s' t log with
  | node d ih =>
      obtain ⟨admits, values, middle, converted, completed⟩ := resolve_eq_ok_iff.mp result
      obtain ⟨v, shown, answer⟩ := complete_eq_some_iff.mp completed
      obtain ⟨calls, parameters, order⟩ := resolveAll_logged ih log converted
      refine ⟨calls ++ [v], resolve_eq_ok_iff.mpr ⟨admits, values, _, parameters, ?_⟩, ?_⟩
      · refine complete_eq_some_iff.mpr ⟨v, shown, ?_⟩
        rw [logged, answer, List.append_assoc]
      · rw [List.map_append, order, List.map_singleton, view_datatype shown,
          Datatype.postorder_eq_append]

/-- A conversion with any visitor succeeds exactly if every node of the reference can be
converted. Its result is then the bottom-up fold, for which the visitor was called once for every
node, parameters from left to right before the node they belong to. Otherwise the first node that
cannot be converted is reported, counted from the root downwards: a name of the table with the
wrong number of parameters, or another name that is generic or not declared. -/
theorem resolve_exact (c : Converter T) (visit : Visitor S T) (d : Datatype) (s : S) :
    ((∃ t s', c.resolve visit d s = (.ok t, s')) ↔ ∀ node ∈ d.nodes, c.Admits node) ∧
      (∀ t s', c.resolve visit d s = (.ok t, s') →
        d.foldM (c.complete visit) s = some (t, s') ∧
          ∃ calls, c.resolve (logged visit) d (s, []) = (.ok t, (s', calls)) ∧
            calls.map (·.datatype) = d.postorder ∧ d.postorder.Perm d.nodes) ∧
      (∀ e s', c.resolve visit d s = (.error e, s') → c.FirstFault d.nodes e) ∧
      (∀ node e, c.Faults node e →
        e.isA .arity = (c.backend.templates.get? node.name).isSome ∧
          e.isA .unresolvedType = (c.backend.templates.get? node.name).isNone) ∧
      ∀ name, (Error.parametrised name).reason =
        "custom type " ++ name ++ " cannot take type parameters" := by
  refine ⟨exists_resolve_eq_ok_iff, fun t s' result => ⟨?_, ?_⟩,
    fun e s' result => firstFault_of_resolve result, fun node e faults => faults.isA,
    fun name => rfl⟩
  · exact ((resolve_eq_ok_iff_foldM d s s' t).mp result).2
  · obtain ⟨calls, recorded, order⟩ := resolve_logged d s s' t [] result
    exact ⟨calls, recorded, order, d.postorder_perm_nodes⟩

end ApiCompiler.Converter
