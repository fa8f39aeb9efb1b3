import ApiCompiler.Proofs.Fallible
import ApiCompiler.Proofs.Text
import ApiCompiler.Target.Options
import Mathlib.Data.List.Nodup

/-!
# What decoding makes of options

Decoding goes through the options of a target in the order of their keys, so it depends only on
what stands under which key. One option more sets one key somewhere on the way; what the options
behind it make of that is described by a relation that every key keeps.
-/

namespace ApiCompiler.Options

open Fallible Text

/-! ## The order of options -/

variable {options others : Options}

theorem sorted_perm (options : Options) : options.sorted.Perm options.entries :=
  List.mergeSort_perm _ _

theorem pairwise_sorted (options : Options) :
    options.sorted.Pairwise fun a b => le a.1 b.1 = true := by
  apply List.pairwise_mergeSort
  · exact fun _ _ _ => le_trans
  · exact fun _ _ => le_total _ _

theorem mem_sorted_iff {key value : String} :
    (key, value) ∈ options.sorted ↔ options.get? key = some value := by
  rw [(sorted_perm options).mem_iff, OrderedMap.get?_eq_some_iff]

theorem nodup_sorted (options : Options) : options.sorted.Nodup := by
  rw [(sorted_perm options).nodup_iff]
  exact options.nodup_keys.of_map

/-- What is in order and holds what stands under each key is the sorted list. -/
theorem eq_sorted {entries : List (String × String)} (distinct : entries.Nodup)
    (ordered : entries.Pairwise fun a b => le a.1 b.1 = true)
    (members : ∀ key value, (key, value) ∈ entries ↔ options.get? key = some value) :
    entries = options.sorted := by
  have perm : entries.Perm options.sorted := by
    rw [List.perm_ext_iff_of_nodup distinct (nodup_sorted options)]
    rintro ⟨key, value⟩
    rw [members, mem_sorted_iff]
  refine perm.eq_of_pairwise ?_ ordered (pairwise_sorted options)
  rintro ⟨k, v⟩ ⟨k', v'⟩ first second below above
  have same : k = k' := Std.le_antisymm (le_eq_true_iff.mp below) (le_eq_true_iff.mp above)
  subst same
  rw [members] at first
  rw [mem_sorted_iff, first] at second
  rw [Option.some.inj second]

/-- Options with the same values under all keys are sorted alike. -/
theorem sorted_congr (same : ∀ key, options.get? key = others.get? key) :
    options.sorted = others.sorted :=
  eq_sorted (nodup_sorted options) (pairwise_sorted options) fun key value => by
    rw [mem_sorted_iff, same]

/-- One option more stands somewhere among the others. -/
theorem exists_sorted_split {key value : String} (fresh : options.get? key = none)
    (added : ∀ k, others.get? k = if k = key then some value else options.get? k) :
    ∃ before after, options.sorted = before ++ after ∧
      others.sorted = before ++ (key, value) :: after := by
  have present : (key, value) ∈ others.sorted := by
    rw [mem_sorted_iff, added, if_pos rfl]
  obtain ⟨before, after, split⟩ := List.append_of_mem present
  refine ⟨before, after, ?_, split⟩
  have distinct := nodup_sorted others
  have ordered := pairwise_sorted others
  rw [split] at distinct ordered
  have fewer : (before ++ after).Sublist (before ++ (key, value) :: after) :=
    (List.sublist_cons_self _ after).append_left before
  refine (eq_sorted (distinct.sublist fewer) (ordered.sublist fewer) fun k v => ?_).symm
  have elsewhere : (k, v) ∈ others.sorted ↔ (k, v) = (key, value) ∨ (k, v) ∈ before ++ after := by
    rw [split, List.mem_append, List.mem_append, List.mem_cons, or_left_comm]
  have once : (key, value) ∉ before ++ after := by
    rw [List.nodup_middle] at distinct
    exact (List.nodup_cons.mp distinct).1
  rw [mem_sorted_iff, added] at elsewhere
  by_cases same : k = key
  · subst same
    rw [if_pos rfl] at elsewhere
    refine iff_of_false (fun mem => ?_) (by rw [fresh]; exact nofun)
    cases elsewhere.mpr (.inr mem)
    exact once mem
  · rw [if_neg same] at elsewhere
    rw [elsewhere]
    exact (or_iff_right fun eq => same (Prod.mk.inj eq).1).symm

/-- The options whose keys are of a class. -/
def restrict (options : Options) (p : String → Bool) : Options :=
  ⟨options.entries.filter fun e => p e.1, options.nodup_keys.sublist (List.filter_sublist.map _)⟩

theorem get?_restrict (options : Options) (p : String → Bool) (key : String) :
    (options.restrict p).get? key = if p key then options.get? key else none := by
  refine Option.ext fun value => ?_
  rw [OrderedMap.get?_eq_some_iff, restrict, List.mem_filter, ← OrderedMap.get?_eq_some_iff]
  cases p key <;> simp

theorem sorted_restrict (options : Options) (p : String → Bool) :
    (options.restrict p).sorted = options.sorted.filter fun e => p e.1 := by
  refine (eq_sorted ((nodup_sorted options).filter _) ((pairwise_sorted options).filter _)
    fun key value => ?_).symm
  rw [List.mem_filter, mem_sorted_iff, get?_restrict]
  cases p key <;> simp

/-- Options that agree on the keys of a class have the same ones of them, in order. -/
theorem filter_sorted_congr {p : String → Bool}
    (same : ∀ key, p key = true → options.get? key = others.get? key) :
    (options.sorted.filter fun e => p e.1) = others.sorted.filter fun e => p e.1 := by
  rw [← sorted_restrict, ← sorted_restrict]
  refine sorted_congr fun key => ?_
  rw [get?_restrict, get?_restrict]
  split
  · exact same key ‹_›
  · rfl

/-! ## The options of a target -/

theorem dropStart?_eq_some_iff {start s rest : String} :
    dropStart? start s = some rest ↔ s = start ++ rest := by
  unfold dropStart? afterStart
  split
  · rename_i begins
    obtain ⟨tail, eq⟩ := List.isPrefixOf_iff_prefix.mp begins
    rw [Option.map_some, Option.some.injEq, ← eq, List.drop_left, ← String.toList_inj,
      ← String.toList_inj, String.toList_append, ← eq, String.toList_ofList]
    exact List.append_right_inj _ |>.symm
  · rename_i other
    refine iff_of_false nofun ?_
    rintro rfl
    rw [String.toList_append] at other
    exact other (List.isPrefixOf_iff_prefix.mpr (List.prefix_append _ _))

/-- Storing entries with distinct keys one after the other. -/
theorem get?_foldl_insert {V : Type} {entries : List (String × V)}
    (distinct : (entries.map (·.1)).Nodup) (m : OrderedMap V) {key : String} {value : V} :
    (entries.foldl (fun m (k, v) => m.insert k v) m).get? key = some value ↔
      (key, value) ∈ entries ∨ key ∉ entries.map (·.1) ∧ m.get? key = some value := by
  induction entries generalizing m with
  | nil => simp
  | cons e rest ih =>
      obtain ⟨k, v⟩ := e
      rw [List.map_cons, List.nodup_cons] at distinct
      rw [List.foldl_cons, ih distinct.2, OrderedMap.get?_insert]
      by_cases same : k = key
      · subst same
        have absent : (k, value) ∉ rest := fun mem =>
          distinct.1 (List.mem_map.mpr ⟨(k, value), mem, rfl⟩)
        simp [distinct.1, absent, eq_comm]
      · simp [same, Ne.symm same]

/-- A key without a scope. -/
def isPlain (key : String) : Bool := !key.toList.contains '.'

/-- A scope and a key are told from a scoped key if no scope has a point. -/
theorem scoped_eq_iff {target scope key rest : String} (target_plain : isPlain target = true)
    (scope_plain : isPlain scope = true) :
    target ++ "." ++ key = scope ++ "." ++ rest ↔ target = scope ∧ key = rest := by
  have cut {name : String} (plain : isPlain name = true) (tail : String) :
      cutAt '.' (name ++ "." ++ tail).toList = some (name.toList, tail.toList) := by
    rw [cutAt_eq_some_iff]
    simp only [isPlain, Bool.not_eq_true', List.contains_eq_mem, decide_eq_false_iff_not] at plain
    exact ⟨by simp, plain⟩
  constructor
  · intro same
    have parts := (cut target_plain key).symm.trans (same ▸ cut scope_plain rest)
    simp only [Option.some.injEq, Prod.mk.injEq, String.toList_inj] at parts
    exact parts
  · rintro ⟨rfl, rfl⟩
    rfl

/-- The options without a scope. -/
def plainEntries (options : Options) : List (String × String) :=
  options.sorted.filter fun (key, _) => isPlain key

/-- The options with the scope of a target, which is removed from their keys. -/
def scopedEntries (options : Options) (target : String) : List (String × String) :=
  options.sorted.filterMap fun (key, value) =>
    (dropStart? (target ++ ".") key).map fun key => (key, value)

theorem mem_plainEntries_iff {key value : String} :
    (key, value) ∈ options.plainEntries ↔
      isPlain key = true ∧ options.get? key = some value := by
  rw [plainEntries, List.mem_filter, mem_sorted_iff, and_comm]

theorem mem_scopedEntries_iff {target key value : String} :
    (key, value) ∈ options.scopedEntries target ↔
      options.get? (target ++ "." ++ key) = some value := by
  rw [scopedEntries, List.mem_filterMap, ← mem_sorted_iff]
  constructor
  · rintro ⟨⟨full, v⟩, mem, kept⟩
    obtain ⟨rest, start, same⟩ := Option.map_eq_some_iff.mp kept
    cases same
    rw [← dropStart?_eq_some_iff.mp start]
    exact mem
  · intro mem
    exact ⟨_, mem, Option.map_eq_some_iff.mpr ⟨key, dropStart?_eq_some_iff.mpr rfl, rfl⟩⟩

theorem nodup_keys_plainEntries (options : Options) : (options.plainEntries.map (·.1)).Nodup := by
  refine List.Nodup.map_on ?_ ((nodup_sorted options).filter _)
  rintro ⟨k, v⟩ first ⟨_, w⟩ second rfl
  have one := (mem_plainEntries_iff.mp first).2.symm.trans (mem_plainEntries_iff.mp second).2
  rw [Option.some.inj one]

theorem nodup_keys_scopedEntries (options : Options) (target : String) :
    ((options.scopedEntries target).map (·.1)).Nodup := by
  have distinct : (options.scopedEntries target).Nodup := by
    refine (nodup_sorted options).filterMap ?_
    rintro ⟨full, v⟩ ⟨full', v'⟩ e first second
    obtain ⟨rest, start, rfl⟩ := Option.map_eq_some_iff.mp first
    obtain ⟨rest', start', same⟩ := Option.map_eq_some_iff.mp second
    cases same
    rw [dropStart?_eq_some_iff.mp start, dropStart?_eq_some_iff.mp start']
  refine List.Nodup.map_on ?_ distinct
  rintro ⟨k, v⟩ first ⟨_, w⟩ second rfl
  have one := (mem_scopedEntries_iff.mp first).symm.trans (mem_scopedEntries_iff.mp second)
  rw [Option.some.inj one]

/-- A scoped key counts before the same key without a scope. -/
theorem get?_forTarget (options : Options) (target key : String) :
    (options.forTarget target).get? key =
      (options.get? (target ++ "." ++ key)).or
        (if isPlain key then options.get? key else none) := by
  have stored : options.forTarget target =
      (options.scopedEntries target).foldl (fun m (k, v) => m.insert k v)
        (options.plainEntries.foldl (fun m (k, v) => m.insert k v) OrderedMap.empty) :=
    List.foldl_append
  have absent : key ∉ (options.scopedEntries target).map (·.1) ↔
      options.get? (target ++ "." ++ key) = none := by
    rw [Option.eq_none_iff_forall_ne_some]
    simp only [List.mem_map, Prod.exists, mem_scopedEntries_iff]
    constructor
    · rintro without value found
      exact without ⟨key, value, found, rfl⟩
    · rintro without ⟨_, value, found, rfl⟩
      exact without value found
  apply Option.ext
  intro value
  rw [stored, get?_foldl_insert (nodup_keys_scopedEntries options target),
    get?_foldl_insert (nodup_keys_plainEntries options), absent, mem_scopedEntries_iff,
    mem_plainEntries_iff, OrderedMap.get?_empty, Option.or_eq_some_iff]
  simp

/-- A key in the scope of a target. -/
def isScoped (target key : String) : Bool := (dropStart? (target ++ ".") key).isSome

theorem scopedEntries_eq_filterMap_filter (options : Options) (target : String) :
    options.scopedEntries target =
      (options.sorted.filter fun e => isScoped target e.1).filterMap fun (key, value) =>
        (dropStart? (target ++ ".") key).map fun key => (key, value) := by
  rw [scopedEntries, List.filterMap_filter]
  refine List.filterMap_congr fun e _ => ?_
  rw [isScoped]
  cases start : dropStart? (target ++ ".") e.1 <;> simp [start]

/-- The options of a target depend on the keys without a scope and on those in its own. -/
theorem forTarget_congr {target : String}
    (plain : ∀ key, isPlain key = true → options.get? key = others.get? key)
    (own : ∀ key, options.get? (target ++ "." ++ key) = others.get? (target ++ "." ++ key)) :
    options.forTarget target = others.forTarget target := by
  have unscoped : options.plainEntries = others.plainEntries := filter_sorted_congr plain
  have inScope : ∀ key, isScoped target key = true → options.get? key = others.get? key := by
    intro key start
    obtain ⟨rest, start⟩ := Option.isSome_iff_exists.mp start
    rw [dropStart?_eq_some_iff.mp start]
    exact own rest
  have specific : options.scopedEntries target = others.scopedEntries target := by
    rw [scopedEntries_eq_filterMap_filter, scopedEntries_eq_filterMap_filter,
      filter_sorted_congr inScope]
  exact congrArg OrderedMap.ofList (congrArg₂ (· ++ ·) unscoped specific)

/-! ## Decoding -/

section Decoding

variable {O : Type} {keys : List (Key O)} {target : String} {start : O}

/-- One option on the way: what is decoded so far, and the problems. -/
def decodeStep (keys : List (Key O)) (state : O × List String) (entry : String × String) :
    O × List String :=
  match decodeOne keys entry.1 entry.2 state.1 with
  | .ok o => (o, state.2)
  | .error p => (state.1, state.2 ++ [p])

theorem decode_eq (options : Options) : decode target keys start options =
    let state := options.sorted.foldl (decodeStep keys) (start, [])
    if state.2.isEmpty then .ok state.1
    else .error (.config (.badOptions target (summary state.2))) := rfl

theorem decode_congr (same : ∀ key, options.get? key = others.get? key) :
    decode target keys start options = decode target keys start others := by
  rw [decode_eq, decode_eq, sorted_congr same]

/-- A key keeps a relation of decoded options: it refuses the same values, and a value that it
takes leaves related options. -/
def Key.Keeps (R : O → O → Prop) (k : Key O) : Prop :=
  ∀ value ≠ "", ∀ o o', R o o' → Option.Rel R (k.set value o) (k.set value o')

variable {R : O → O → Prop}

theorem Key.keeps_text {name : String} {put : String → O → O}
    (kept : ∀ value ≠ "", ∀ o o', R o o' → R (put value o) (put value o')) :
    (Key.text name put).Keeps R :=
  fun value given o o' related => .some (kept value given o o' related)

theorem Key.keeps_map {A : Type} {name : String} {read : String → Option A} {put : A → O → O}
    (kept : ∀ a o o', R o o' → R (put a o) (put a o')) :
    (⟨name, fun s o => (read s).map fun a => put a o⟩ : Key O).Keeps R := by
  intro value _ o o' related
  dsimp only
  cases read value with
  | none => exact .none
  | some a => exact .some (kept a o o' related)

theorem decodeStep_related (keeps : ∀ k ∈ keys, k.Keeps R) {o o' : O} (related : R o o')
    (problems : List String) (entry : String × String) :
    ∃ p p' more, R p p' ∧ decodeStep keys (o, problems) entry = (p, more) ∧
      decodeStep keys (o', problems) entry = (p', more) := by
  unfold decodeStep decodeOne
  dsimp only
  cases found : keys.find? fun k => sameKey k.name entry.1 with
  | none => exact ⟨o, o', _, related, rfl, rfl⟩
  | some k =>
      dsimp only
      by_cases empty : entry.2 = ""
      · simp only [empty, beq_self_eq_true, if_true]
        exact ⟨o, o', _, related, rfl, rfl⟩
      · rw [if_neg (by simpa using empty), if_neg (by simpa using empty)]
        have each := keeps k (List.mem_of_find?_eq_some found) entry.2 empty o o' related
        cases first : k.set entry.2 o <;> cases second : k.set entry.2 o'
        all_goals rw [first, second] at each
        · exact ⟨o, o', _, related, rfl, rfl⟩
        · exact nomatch each
        · exact nomatch each
        · cases each with
          | some each => exact ⟨_, _, _, each, rfl, rfl⟩

theorem foldl_decodeStep_related (keeps : ∀ k ∈ keys, k.Keeps R)
    (entries : List (String × String)) {o o' : O} (related : R o o') (problems : List String) :
    ∃ p p' more, R p p' ∧ entries.foldl (decodeStep keys) (o, problems) = (p, more) ∧
      entries.foldl (decodeStep keys) (o', problems) = (p', more) := by
  induction entries generalizing o o' problems with
  | nil => exact ⟨o, o', problems, related, rfl, rfl⟩
  | cons entry rest ih =>
      obtain ⟨p, p', more, related, first, second⟩ :=
        decodeStep_related keeps related problems entry
      rw [List.foldl_cons, List.foldl_cons, first, second]
      exact ih related more

/-- Options that decode go on to decode with one more, if that is set to a proper value; what
they decode to is related as the option makes it and all keys keep it. -/
theorem decode_of_added (keeps : ∀ k ∈ keys, k.Keeps R) {key value : String}
    (sets : ∀ o, ∃ o', decodeOne keys key value o = .ok o' ∧ R o o')
    (fresh : options.get? key = none)
    (added : ∀ k, others.get? k = if k = key then some value else options.get? k) {o : O}
    (decoded : decode target keys start options = .ok o) :
    ∃ o', decode target keys start others = .ok o' ∧ R o o' := by
  obtain ⟨before, after, without, inside⟩ := exists_sorted_split fresh added
  rw [decode_eq, without, List.foldl_append] at decoded
  rw [decode_eq, inside, List.foldl_append, List.foldl_cons]
  generalize before.foldl (decodeStep keys) (start, []) = state at decoded
  obtain ⟨middle, problems⟩ := state
  obtain ⟨middle', set, related⟩ := sets middle
  have step : decodeStep keys (middle, problems) (key, value) = (middle', problems) := by
    rw [decodeStep, set]
  obtain ⟨p, p', more, related, first, second⟩ :=
    foldl_decodeStep_related keeps after related problems
  rw [first] at decoded
  rw [step, second]
  dsimp only at decoded
  split at decoded
  · rename_i clean
    cases decoded
    exact ⟨p', if_pos clean, related⟩
  · exact nomatch decoded

end Decoding

end ApiCompiler.Options
