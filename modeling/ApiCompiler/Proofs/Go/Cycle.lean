import ApiCompiler.Proofs.Fallible
import ApiCompiler.Target.Go.Dependency
import Mathlib.Data.List.Chain
import Mathlib.Data.List.Nodup
import Mathlib.Data.List.Perm.Subperm
import Mathlib.Logic.Relation

/-!
# Circles of dependencies

`findCycle` follows dependencies depth first. What it reports is a circle, because
the path that led to a module is a chain of dependencies without repetition. If
it reports nothing, it has put every module behind all modules it depends on, and
such a list leaves no room for a circle.
-/

namespace ApiCompiler.Go

open Relation

variable {deps : String → List String} {names path done : List String} {name : String}

/-- One module depends on another. -/
def DependsOn (deps : String → List String) (name dep : String) : Prop := dep ∈ deps name

/-- A chain of dependencies without repetition. -/
structure IsPath (deps : String → List String) (path : List String) : Prop where
  linked : path.IsChain (DependsOn deps)
  distinct : path.Nodup

/-- A circle of dependencies, closed by its first module. -/
structure IsCycle (deps : String → List String) (cycle : List String) : Prop where
  closed : cycle.head? = cycle.getLast?
  proper : 1 < cycle.length
  distinct : cycle.dropLast.Nodup
  linked : cycle.IsChain (DependsOn deps)

/-- Every module of the list depends only on modules further behind. -/
inductive Settled (deps : String → List String) : List String → Prop
  | nil : Settled deps []
  | cons {name : String} {done : List String} (below : ∀ dep ∈ deps name, dep ∈ done)
      (rest : Settled deps done) : Settled deps (name :: done)

/-! ## Settled lists -/

theorem Settled.mem_of_dependsOn {dep : String} (settled : Settled deps done)
    (mem : name ∈ done) (edge : DependsOn deps name dep) : dep ∈ done := by
  induction settled with
  | nil => exact nomatch mem
  | cons below rest ih =>
      rcases List.mem_cons.mp mem with rfl | mem
      · exact List.mem_cons_of_mem _ (below dep edge)
      · exact List.mem_cons_of_mem _ (ih mem)

theorem Settled.mem_of_transGen {dep : String} (settled : Settled deps done)
    (mem : name ∈ done) (walk : TransGen (DependsOn deps) name dep) : dep ∈ done := by
  induction walk with
  | single edge => exact settled.mem_of_dependsOn mem edge
  | tail _ edge ih => exact settled.mem_of_dependsOn ih edge

/-- No module of a settled list depends on itself, not even through others: a walk
from the first module stays among the modules behind it. -/
theorem Settled.not_transGen_self (settled : Settled deps done) (mem : name ∈ done) :
    ¬TransGen (DependsOn deps) name name := by
  induction settled with
  | nil => exact nomatch mem
  | @cons first done below rest ih =>
      intro walk
      by_cases behind : name ∈ done
      · exact ih behind walk
      · obtain rfl := (List.mem_cons.mp mem).resolve_right behind
        obtain ⟨next, edge, onward⟩ := TransGen.head'_iff.mp walk
        have start : next ∈ done := below next edge
        rcases reflTransGen_iff_eq_or_transGen.mp onward with rfl | onward
        · exact behind start
        · exact behind (rest.mem_of_transGen start onward)

/-! ## Walks and circles -/

/-- A walk from a module whose dependencies are the same in another graph is a walk there,
provided that edges lead only to such modules. -/
theorem transGen_of_agree {other : String → List String} {last : String}
    (inside : ∀ a b, DependsOn deps a b → b ∈ names) (same : ∀ a ∈ names, deps a = other a)
    (start : name ∈ names) (walk : TransGen (DependsOn deps) name last) :
    TransGen (DependsOn other) name last := by
  induction walk with
  | single edge =>
      rw [DependsOn, same name start] at edge
      exact .single edge
  | tail before edge ih =>
      obtain ⟨middle, -, into⟩ := TransGen.tail'_iff.mp before
      rw [DependsOn, same _ (inside middle _ into)] at edge
      exact ih.tail edge

/-- A chain leads from its first element to its last one. -/
theorem transGen_of_isChain {first last : String} {middle : List String}
    (linked : (first :: (middle ++ [last])).IsChain (DependsOn deps)) :
    TransGen (DependsOn deps) first last := by
  induction middle generalizing first with
  | nil => exact .single (List.isChain_cons_cons.mp linked).1
  | cons next middle ih =>
      obtain ⟨edge, rest⟩ := List.isChain_cons_cons.mp linked
      exact .head edge (ih rest)

theorem IsCycle.exists_transGen {cycle : List String} (circle : IsCycle deps cycle) :
    ∃ name, TransGen (DependsOn deps) name name := by
  obtain ⟨closed, proper, -, linked⟩ := circle
  match cycle, proper with
  | first :: rest, proper =>
      have nonempty : rest ≠ [] := by
        rintro rfl
        exact absurd proper (Nat.lt_irrefl 1)
      rw [← List.dropLast_append_getLast nonempty] at linked closed
      have same : first = rest.getLast nonempty := by
        simpa [List.getLast?_cons] using closed
      have walk := transGen_of_isChain linked
      rw [← same] at walk
      exact ⟨first, walk⟩

theorem IsPath.singleton (deps : String → List String) (name : String) : IsPath deps [name] :=
  ⟨List.isChain_singleton name, List.nodup_singleton name⟩

/-- A path grows by a new dependency of its last module. -/
theorem IsPath.concat {dep : String} (isPath : IsPath deps (path ++ [name]))
    (edge : DependsOn deps name dep) (fresh : dep ∉ path ++ [name]) :
    IsPath deps (path ++ [name] ++ [dep]) := by
  refine ⟨isPath.linked.append (List.isChain_singleton dep) ?_, ?_⟩
  · intro a isLast b isFirst
    rw [List.getLast?_concat] at isLast
    cases isLast
    cases isFirst
    exact edge
  · rw [← List.concat_eq_append]
    exact isPath.distinct.concat fresh

/-- A path that meets one of its modules again holds a circle from there on. -/
theorem IsPath.isCycle_dropWhile {dep : String} (isPath : IsPath deps (path ++ [name]))
    (edge : DependsOn deps name dep) (again : dep ∈ path ++ [name]) :
    IsCycle deps ((path ++ [name]).dropWhile (· != dep) ++ [dep]) := by
  obtain ⟨front, back, split⟩ := List.append_of_mem again
  have fresh : ∀ a ∈ front, (a != dep) = true := by
    intro a mem
    rw [bne_iff_ne]
    rintro rfl
    have distinct := isPath.distinct
    rw [split, List.nodup_append] at distinct
    exact distinct.2.2 a mem a List.mem_cons_self rfl
  have cut : (path ++ [name]).dropWhile (· != dep) = dep :: back := by
    rw [split, List.dropWhile_append_of_pos fresh]
    simp
  have suffix : (dep :: back).IsSuffix (path ++ [name]) := ⟨front, split.symm⟩
  have last : (dep :: back).getLast? = some name := by
    have ends := congrArg List.getLast? split
    rw [List.getLast?_concat, List.getLast?_append_cons] at ends
    exact ends.symm
  rw [cut]
  refine ⟨by simp [List.getLast?_cons], by simp, ?_, ?_⟩
  · rw [List.dropLast_concat]
    exact isPath.distinct.sublist suffix.sublist
  · refine (isPath.linked.suffix suffix).append (List.isChain_singleton dep) ?_
    intro a isLast b isFirst
    rw [last] at isLast
    cases isLast
    cases isFirst
    exact edge

/-! ## The search -/

/-- What one step of the search does with the modules that lead into no circle: it
keeps them, and adds a module together with all it depends on. -/
def Settles (deps : String → List String) (name : String)
    (step : List String → Except (List String) (List String)) : Prop :=
  ∀ done done', Settled deps done → step done = .ok done' →
    Settled deps done' ∧ done ⊆ done' ∧ name ∈ done'

/-- A module that is settled already needs no step. -/
theorem Settles.unless_contains {step : List String → Except (List String) (List String)}
    (settles : Settles deps name step) :
    Settles deps name fun done => if done.contains name then .ok done else step done := by
  intro done done' settled result
  dsimp only at result
  split at result
  · rename_i present
    cases result
    exact ⟨settled, List.Subset.refl _, List.contains_iff_mem.mp present⟩
  · exact settles done done' settled result

theorem foldlM_settles {step : List String → String → Except (List String) (List String)}
    {done' : List String} (each : ∀ name ∈ names, Settles deps name (step · name))
    (settled : Settled deps done) (result : names.foldlM step done = .ok done') :
    Settled deps done' ∧ done ⊆ done' ∧ ∀ name ∈ names, name ∈ done' := by
  induction names generalizing done with
  | nil =>
      cases result
      exact ⟨settled, List.Subset.refl _, List.forall_mem_nil _⟩
  | cons name names ih =>
      rw [List.foldlM_cons] at result
      obtain ⟨middle, first, others⟩ := Fallible.bind_eq_ok_iff.mp result
      obtain ⟨settledMiddle, kept, added⟩ := each name List.mem_cons_self done middle settled first
      obtain ⟨settledLast, keptRest, all⟩ :=
        ih (fun other mem => each other (List.mem_cons_of_mem name mem)) settledMiddle others
      exact ⟨settledLast, List.Subset.trans kept keptRest,
        List.forall_mem_cons.mpr ⟨keptRest added, all⟩⟩

theorem exists_of_foldlM_eq_error {α β ε : Type} {step : β → α → Except ε β} {as : List α} {b : β}
    {e : ε} (result : as.foldlM step b = .error e) : ∃ a ∈ as, ∃ c, step c a = .error e := by
  induction as generalizing b with
  | nil => exact nomatch result
  | cons a as ih =>
      rw [List.foldlM_cons] at result
      cases first : step b a with
      | error e' =>
          rw [first] at result
          cases result
          exact ⟨a, List.mem_cons_self, b, first⟩
      | ok c =>
          rw [first] at result
          obtain ⟨other, mem, failed⟩ := ih result
          exact ⟨other, List.mem_cons_of_mem a mem, failed⟩

/-- The step of `follow` for one dependency of the last module of a path. -/
def visitDependency (deps : String → List String) (fuel : Nat) (path done : List String)
    (dep : String) : Except (List String) (List String) :=
  if path.contains dep then .error (path.dropWhile (· != dep) ++ [dep])
  else if done.contains dep then .ok done
  else follow deps fuel path done dep

theorem follow_succ (deps : String → List String) (fuel : Nat) (path done : List String)
    (name : String) :
    follow deps (fuel + 1) path done name =
      ((deps name).foldlM (visitDependency deps fuel (path ++ [name])) done).map (name :: ·) := by
  rw [follow]
  change ((deps name).foldlM (visitDependency deps fuel (path ++ [name])) done >>= _) = _
  cases (deps name).foldlM (visitDependency deps fuel (path ++ [name])) done with
  | error cycle => rfl
  | ok done' => rfl

/-- A search that fails on a path reports a circle. -/
theorem isCycle_of_follow {fuel : Nat} {cycle : List String}
    (isPath : IsPath deps (path ++ [name]))
    (failed : follow deps fuel path done name = .error cycle) : IsCycle deps cycle := by
  induction fuel generalizing path done name with
  | zero => exact nomatch failed
  | succ fuel ih =>
      rw [follow_succ] at failed
      cases run : (deps name).foldlM (visitDependency deps fuel (path ++ [name])) done with
      | ok done' =>
          rw [run] at failed
          exact nomatch failed
      | error cycle' =>
          rw [run] at failed
          cases failed
          obtain ⟨dep, edge, middle, step⟩ := exists_of_foldlM_eq_error run
          rw [visitDependency] at step
          by_cases again : dep ∈ path ++ [name]
          · rw [if_pos (List.contains_iff_mem.mpr again)] at step
            cases step
            exact isPath.isCycle_dropWhile edge again
          · rw [if_neg (again ∘ List.contains_iff_mem.mp)] at step
            split at step
            · exact nomatch step
            · exact ih (isPath.concat edge again) step

/-- A dependency that is not met again is settled if the search from it settles it. -/
theorem visitDependency_settles {fuel : Nat} {dep : String}
    (deeper : dep ∉ path → Settles deps dep (follow deps fuel path · dep)) :
    Settles deps dep (visitDependency deps fuel path · dep) := by
  intro done done' settled result
  dsimp only [visitDependency] at result
  split at result
  · exact nomatch result
  · rename_i fresh
    rw [List.contains_iff_mem] at fresh
    exact (deeper fresh).unless_contains done done' settled result

/-- A search that succeeds has settled its module. A path has no repetition, so it
is never longer than the list of all modules, and the fuel suffices. -/
theorem follow_settles {fuel : Nat} (inside : ∀ n ∈ names, ∀ dep ∈ deps n, dep ∈ names)
    (isPath : IsPath deps (path ++ [name])) (known : ∀ n ∈ path ++ [name], n ∈ names)
    (enough : names.length < fuel + path.length) :
    Settles deps name (follow deps fuel path · name) := by
  induction fuel generalizing path name with
  | zero =>
      have short := (List.subperm_of_subset isPath.distinct known).length_le
      rw [List.length_append, List.length_singleton] at short
      omega
  | succ fuel ih =>
      intro done done' settled result
      dsimp only at result
      rw [follow_succ] at result
      obtain ⟨last, run, rfl⟩ := Fallible.map_eq_ok_iff.mp result
      have each : ∀ dep ∈ deps name,
          Settles deps dep (visitDependency deps fuel (path ++ [name]) · dep) := by
        intro dep edge
        refine visitDependency_settles fun fresh => ih (isPath.concat edge fresh) ?_ ?_
        · intro n mem
          rcases List.mem_append.mp mem with mem | mem
          · exact known n mem
          · rw [List.mem_singleton.mp mem]
            exact inside name (known name (by simp)) dep edge
        · rw [List.length_append, List.length_singleton]
          omega
      obtain ⟨settledLast, kept, all⟩ := foldlM_settles each settled run
      exact ⟨.cons all settledLast, List.Subset.trans kept (List.subset_cons_self name last),
        List.mem_cons_self⟩

/-- What `findCycle` reports is a circle. -/
theorem isCycle_of_findCycle {cycle : List String} (found : findCycle deps names = some cycle) :
    IsCycle deps cycle := by
  rw [findCycle] at found
  split at found
  · exact nomatch found
  · rename_i failed
    cases found
    obtain ⟨name, -, middle, step⟩ := exists_of_foldlM_eq_error failed
    split at step
    · exact nomatch step
    · exact isCycle_of_follow (IsPath.singleton deps name) step

/-- If `findCycle` reports nothing, no module that it was given depends on itself. -/
theorem not_transGen_of_findCycle (inside : ∀ n ∈ names, ∀ dep ∈ deps n, dep ∈ names)
    (quiet : findCycle deps names = none) (mem : name ∈ names) :
    ¬TransGen (DependsOn deps) name name := by
  rw [findCycle] at quiet
  split at quiet
  · rename_i done result
    have each : ∀ n ∈ names, Settles deps n fun done =>
        if done.contains n then .ok done else follow deps (names.length + 1) [] done n := by
      intro n known
      refine (follow_settles inside (IsPath.singleton deps n) ?_ ?_).unless_contains
      · exact List.forall_mem_singleton.mpr known
      · rw [List.length_nil]
        omega
    obtain ⟨settled, -, all⟩ := foldlM_settles each .nil result
    exact settled.not_transGen_self (all name mem)
  · exact nomatch quiet

end ApiCompiler.Go
