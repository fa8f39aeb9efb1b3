import ApiCompiler.Proofs.Text
import ApiCompiler.Value

/-!
# Plain values

Values without dates, floats and tables, and the order of the entries of maps.
-/

namespace ApiCompiler.Value

/-! ## Entries in the order of their keys -/

theorem mem_sortedEntries {V : Type} {entries : List (String × V)} {e : String × V} :
    e ∈ sortedEntries entries ↔ e ∈ entries :=
  List.mem_mergeSort

/-- What is made of the values of entries does not change the order of the entries. -/
theorem sortedEntries_map {V W : Type} (f : V → W) (entries : List (String × V)) :
    sortedEntries (entries.map fun e => (e.1, f e.2)) =
      (sortedEntries entries).map fun e => (e.1, f e.2) := by
  unfold sortedEntries
  rw [List.map_mergeSort]
  exact fun _ _ _ _ => rfl

theorem sortedEntries_sortedEntries {V : Type} (entries : List (String × V)) :
    sortedEntries (sortedEntries entries) = sortedEntries entries := by
  have sorted : (sortedEntries entries).Pairwise fun a b => Text.le a.1 b.1 = true := by
    apply List.pairwise_mergeSort
    · exact fun _ _ _ => Text.le_trans
    · exact fun _ _ => Text.le_total _ _
  unfold sortedEntries at sorted ⊢
  rw [List.mergeSort_of_pairwise sorted]

/-! ## Plain values -/

/-- Values built from constants, integers, texts, lists, and maps with distinct keys. -/
inductive IsPlain : Value → Prop
  | null : IsPlain null
  | bool (b : Bool) : IsPlain (bool b)
  | int (i : Int) : IsPlain (int i)
  | str (s : String) : IsPlain (str s)
  | list {items : List Value} (each : ∀ v ∈ items, IsPlain v) : IsPlain (list items)
  | map {entries : List (String × Value)} (distinct : (entries.map (·.1)).Nodup)
      (each : ∀ e ∈ entries, IsPlain e.2) : IsPlain (map entries)

mutual

/-- A value with the entries of every map in the order of their keys. Entries of a map have no
order of their own, so this is the same value. -/
def ordered : Value → Value
  | list items => list (orderedAll items)
  | map entries => map (sortedEntries (orderedEntries entries))
  | v => v

/-- Several values with the entries of their maps in order. -/
def orderedAll : List Value → List Value
  | [] => []
  | v :: rest => v.ordered :: orderedAll rest

/-- Entries with the entries of the maps in their values in order. -/
def orderedEntries : List (String × Value) → List (String × Value)
  | [] => []
  | (k, v) :: rest => (k, v.ordered) :: orderedEntries rest

end

theorem orderedAll_eq_map (items : List Value) : orderedAll items = items.map ordered := by
  induction items with
  | nil => rfl
  | cons v rest ih => rw [orderedAll, ih, List.map_cons]

theorem orderedEntries_eq_map (entries : List (String × Value)) :
    orderedEntries entries = entries.map fun e => (e.1, e.2.ordered) := by
  induction entries with
  | nil => rfl
  | cons e rest ih => rw [orderedEntries, ih, List.map_cons]

end ApiCompiler.Value
