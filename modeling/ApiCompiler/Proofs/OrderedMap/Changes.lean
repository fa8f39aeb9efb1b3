import ApiCompiler.Yaml.Fit
import Mathlib.Data.List.Forall2
import Mathlib.Data.List.Induction
import Mathlib.Data.List.Nodup
import Mathlib.Logic.Function.Basic

/-!
# Changes of an ordered map

A map changes when a value is stored and when a node is read over it. What a change makes of the
pairs of a map is laid down on plain lists (`Leads`), and a map follows these rules through every
sequence of changes. So does a map that is kept in two parts, a list of keys and a table of
values (`Split`): the parts stay in step, also where a reading stops half way.
-/

namespace ApiCompiler.OrderedMap

open Yaml

variable {V : Type}

/-- A value is stored under a key, or a node is read over the map. Keys and values may be read in
any way. -/
inductive Change (V : Type) where
  | set (key : String) (value : V)
  | decode (readKey : Node → Except Error String) (readValue : Node → Except Error V) (n : Node)

/-- What a change makes of a map, and how a reading fails. -/
def perform (m : OrderedMap V) : Change V → MapReading V
  | .set key value => ⟨m.insert key value, none⟩
  | .decode readKey readValue n => .ofMapping readKey readValue m n

/-- The map after a change. -/
def apply (m : OrderedMap V) (change : Change V) : OrderedMap V := (m.perform change).entries

/-! ## Pairs in order -/

section

variable (readKey : Node → Except Error String) (readValue : Node → Except Error V)

/-- Every entry of a mapping is read, and no key comes twice. -/
structure Reads (entries : List (Node × Node)) (pairs : List (String × V)) : Prop where
  each : List.Forall₂
    (fun entry pair => readKey entry.1 = .ok pair.1 ∧ readValue entry.2 = .ok pair.2) entries pairs
  distinct : (pairs.map (·.1)).Nodup

/-- Why an entry cannot be read behind entries with given keys. -/
inductive Refused (keys : List String) : Node × Node → Error → Prop
  | badKey {k v : Node} {e : Error} (bad : readKey k = .error e) : Refused keys (k, v) e
  | repeated {k v : Node} {key : String} (good : readKey k = .ok key) (present : key ∈ keys) :
      Refused keys (k, v) (.yaml (.repeatedKey k.line key))
  | badValue {k v : Node} {key : String} {e : Error} (good : readKey k = .ok key)
      (absent : key ∉ keys) (bad : readValue v = .error e) : Refused keys (k, v) (.within key e)

end

/-- What a change makes of pairs, and how it fails. A present key keeps its place and a new one
comes last. A mapping that is read leaves its own pairs, or those before the first entry that cannot
be read; any other node leaves the pairs as they were. -/
inductive Leads (pairs : List (String × V)) :
    Change V → List (String × V) → Option Error → Prop
  | replace {key : String} {value : V} (present : key ∈ pairs.map (·.1)) :
      Leads pairs (.set key value)
        (pairs.map fun e => if e.1 = key then (key, value) else e) none
  | add {key : String} {value : V} (absent : key ∉ pairs.map (·.1)) :
      Leads pairs (.set key value) (pairs ++ [(key, value)]) none
  | complete {readKey : Node → Except Error String} {readValue : Node → Except Error V}
      {line : Nat} {tag : String} {entries : List (Node × Node)} {read : List (String × V)}
      (all : Reads readKey readValue entries read) :
      Leads pairs (.decode readKey readValue (.mapping line tag entries)) read none
  | stop {readKey : Node → Except Error String} {readValue : Node → Except Error V}
      {line : Nat} {tag : String} {before after : List (Node × Node)} {entry : Node × Node}
      {read : List (String × V)} {e : Error} (start : Reads readKey readValue before read)
      (refused : Refused readKey readValue (read.map (·.1)) entry e) :
      Leads pairs (.decode readKey readValue (.mapping line tag (before ++ entry :: after)))
        read (some e)
  | keep {readKey : Node → Except Error String} {readValue : Node → Except Error V} {n : Node}
      (other : n.isMapping = false) :
      Leads pairs (.decode readKey readValue n) pairs (some (.yaml (.notMapping n.line n.kindName)))

/-- What changes make of pairs, one after the other. -/
inductive Derives : List (String × V) → List (Change V) → List (String × V) → Prop
  | nil (pairs : List (String × V)) : Derives pairs [] pairs
  | cons {pairs middle final : List (String × V)} {change : Change V} {changes : List (Change V)}
      {fault : Option Error} (first : Leads pairs change middle fault)
      (others : Derives middle changes final) : Derives pairs (change :: changes) final

/-! ## Storing -/

/-- A present key keeps its place and gets the new value. -/
theorem put_eq_map {entries : List (String × V)} {key : String} {value : V}
    (distinct : (entries.map (·.1)).Nodup) (present : key ∈ entries.map (·.1)) :
    put entries key value = entries.map fun e => if e.1 = key then (key, value) else e := by
  induction entries with
  | nil => exact nomatch present
  | cons entry rest ih =>
      rcases entry with ⟨k, v⟩
      rw [List.map_cons, List.nodup_cons] at distinct
      rw [List.map_cons, List.mem_cons] at present
      by_cases same : k = key
      · subst same
        have others : ∀ e ∈ rest, (if e.1 = k then (k, value) else e) = e := by
          intro e mem
          apply if_neg
          rintro rfl
          exact distinct.1 (List.mem_map.mpr ⟨e, mem, rfl⟩)
        simp [put, List.map_congr_left others]
      · have behind : key ∈ rest.map (·.1) := present.resolve_left (Ne.symm same)
        simp [put, same, ih distinct.2 behind]

/-! ## Reading -/

section

variable {readKey : Node → Except Error String} {readValue : Node → Except Error V}

theorem contains_iff {m : OrderedMap V} {key : String} :
    m.contains key = true ↔ key ∈ m.keys := by
  rw [contains, Option.isSome_iff_ne_none, ne_eq, get?_eq_none_iff, not_not]

/-- A new entry is read and stored behind the others. -/
theorem readEntries_cons {m : OrderedMap V} {entry : Node × Node} {pair : String × V}
    (key : readKey entry.1 = .ok pair.1) (value : readValue entry.2 = .ok pair.2)
    (absent : pair.1 ∉ m.keys) (rest : List (Node × Node)) :
    MapReading.readEntries readKey readValue m (entry :: rest) =
      MapReading.readEntries readKey readValue (m.insert pair.1 pair.2) rest := by
  have free : m.contains pair.1 = false := by
    rw [Bool.eq_false_iff, ne_eq, contains_iff]
    exact absent
  simp [MapReading.readEntries, key, value, free]

/-- Entries that can be read are stored one behind the other. -/
theorem exists_readEntries_append {m : OrderedMap V} {before : List (Node × Node)}
    {pairs : List (String × V)}
    (each : List.Forall₂ (fun entry pair =>
      readKey entry.1 = .ok pair.1 ∧ readValue entry.2 = .ok pair.2) before pairs)
    (distinct : ((m.entries ++ pairs).map (·.1)).Nodup) (after : List (Node × Node)) :
    ∃ m' : OrderedMap V, m'.entries = m.entries ++ pairs ∧
      MapReading.readEntries readKey readValue m (before ++ after) =
        MapReading.readEntries readKey readValue m' after := by
  induction each generalizing m with
  | nil => exact ⟨m, (List.append_nil _).symm, rfl⟩
  | @cons entry pair before pairs first _ ih =>
      have absent : pair.1 ∉ m.keys := by
        rw [List.map_append, List.nodup_append] at distinct
        intro mem
        exact distinct.2.2 _ mem _ List.mem_cons_self rfl
      have stored : (m.insert pair.1 pair.2).entries = m.entries ++ [pair] :=
        put_eq_append absent
      have joined : (m.insert pair.1 pair.2).entries ++ pairs = m.entries ++ pair :: pairs := by
        rw [stored, List.append_assoc, List.singleton_append]
      rcases ih (joined ▸ distinct) with ⟨m', entries, same⟩
      refine ⟨m', entries.trans joined, ?_⟩
      rw [List.cons_append, readEntries_cons first.1 first.2 absent, same]

/-- A refused entry ends a reading. -/
theorem readEntries_of_refused {m : OrderedMap V} {entry : Node × Node} {e : Error}
    (refused : Refused readKey readValue m.keys entry e) (rest : List (Node × Node)) :
    MapReading.readEntries readKey readValue m (entry :: rest) = ⟨m, some e⟩ := by
  cases refused with
  | badKey bad => simp [MapReading.readEntries, bad]
  | repeated good present => simp [MapReading.readEntries, good, contains_iff.mpr present]
  | badValue good absent bad =>
      have free : ¬m.contains _ = true := fun present => absent (contains_iff.mp present)
      simp [MapReading.readEntries, good, bad, free]

theorem readEntries_of_reads {entries : List (Node × Node)} {pairs : List (String × V)}
    (reads : Reads readKey readValue entries pairs) :
    (MapReading.readEntries readKey readValue empty entries).entries.entries = pairs ∧
      (MapReading.readEntries readKey readValue empty entries).fault = none := by
  rcases exists_readEntries_append (m := empty) reads.each reads.distinct [] with
    ⟨m', stored, same⟩
  rw [List.append_nil] at same
  rw [same]
  exact ⟨stored, rfl⟩

theorem readEntries_of_reads_refused {before : List (Node × Node)} (after : List (Node × Node))
    {entry : Node × Node} {pairs : List (String × V)} {e : Error}
    (reads : Reads readKey readValue before pairs)
    (refused : Refused readKey readValue (pairs.map (·.1)) entry e) :
    (MapReading.readEntries readKey readValue empty (before ++ entry :: after)).entries.entries =
        pairs ∧
      (MapReading.readEntries readKey readValue empty (before ++ entry :: after)).fault =
        some e := by
  rcases exists_readEntries_append (m := empty) reads.each reads.distinct (entry :: after) with
    ⟨m', stored, same⟩
  have refused' : Refused readKey readValue m'.keys entry e := by
    rw [keys, stored]
    exact refused
  rw [same, readEntries_of_refused refused']
  exact ⟨stored, rfl⟩

/-- The first entry is read behind the pairs of a map, or it is refused. -/
theorem reads_or_refused (readKey : Node → Except Error String)
    (readValue : Node → Except Error V) (keys : List String) (entry : Node × Node) :
    (∃ pair : String × V, readKey entry.1 = .ok pair.1 ∧ readValue entry.2 = .ok pair.2 ∧
        pair.1 ∉ keys) ∨
      ∃ e, Refused readKey readValue keys entry e := by
  rcases entry with ⟨k, v⟩
  cases key : readKey k with
  | error e => exact Or.inr ⟨e, .badKey key⟩
  | ok name =>
      by_cases present : name ∈ keys
      · exact Or.inr ⟨_, .repeated key present⟩
      · cases value : readValue v with
        | error e => exact Or.inr ⟨_, .badValue key present value⟩
        | ok a => exact Or.inl ⟨(name, a), rfl, rfl, present⟩

/-- Entries can all be read, or up to one that is refused. -/
theorem exists_reads (readKey : Node → Except Error String) (readValue : Node → Except Error V)
    (entries : List (Node × Node)) :
    (∃ pairs, Reads readKey readValue entries pairs) ∨
      ∃ before entry after pairs e, entries = before ++ entry :: after ∧
        Reads readKey readValue before pairs ∧
        Refused readKey readValue (pairs.map (·.1)) entry e := by
  induction entries using List.reverseRecOn with
  | nil => exact Or.inl ⟨[], .nil, List.nodup_nil⟩
  | append_singleton entries entry ih =>
      rcases ih with ⟨pairs, reads⟩ | ⟨before, stopped, after, pairs, e, rfl, start, refused⟩
      · rcases reads_or_refused readKey readValue (pairs.map (·.1)) entry with
          ⟨pair, key, value, absent⟩ | ⟨e, refused⟩
        · refine Or.inl ⟨pairs ++ [pair], ?_, ?_⟩
          · exact List.rel_append reads.each (.cons ⟨key, value⟩ .nil)
          · rw [List.map_append, List.nodup_append']
            refine ⟨reads.distinct, List.nodup_singleton _, ?_⟩
            simpa using absent
        · exact Or.inr ⟨entries, entry, [], pairs, e, rfl, reads, refused⟩
      · refine Or.inr ⟨before, stopped, after ++ [entry], pairs, e, ?_, start, refused⟩
        rw [List.append_assoc, List.cons_append]

/-- A mapping is read without a fault exactly if all its entries can be read. -/
theorem fault_readEntries_eq_none_iff {entries : List (Node × Node)} :
    (MapReading.readEntries readKey readValue empty entries).fault = none ↔
      ∃ pairs, Reads readKey readValue entries pairs := by
  constructor
  · intro clean
    rcases exists_reads readKey readValue entries with
      found | ⟨before, entry, after, pairs, e, rfl, start, refused⟩
    · exact found
    · exact nomatch clean.symm.trans (readEntries_of_reads_refused _ start refused).2
  · rintro ⟨pairs, reads⟩
    exact (readEntries_of_reads reads).2

end

/-! ## Runs -/

/-- A change does to the pairs of a map what the rules say, and nothing else. -/
theorem leads_iff {m : OrderedMap V} {change : Change V} {pairs : List (String × V)}
    {fault : Option Error} :
    Leads m.entries change pairs fault ↔
      pairs = (m.perform change).entries.entries ∧ fault = (m.perform change).fault := by
  constructor
  · intro leads
    cases leads with
    | replace present => exact ⟨(put_eq_map m.nodup_keys present).symm, rfl⟩
    | add absent => exact ⟨(put_eq_append absent).symm, rfl⟩
    | complete all =>
        rcases readEntries_of_reads all with ⟨read, clean⟩
        exact ⟨read.symm, clean.symm⟩
    | stop start refused =>
        rcases readEntries_of_reads_refused _ start refused with ⟨read, failed⟩
        exact ⟨read.symm, failed.symm⟩
    | @keep _ _ n other =>
        cases n with
        | mapping line tag entries => exact nomatch other
        | scalar | sequence | aliasOf => exact ⟨rfl, rfl⟩
  · rintro ⟨rfl, rfl⟩
    cases change with
    | set key value =>
        change Leads m.entries _ (put m.entries key value) none
        by_cases present : key ∈ m.entries.map (·.1)
        · rw [put_eq_map m.nodup_keys present]
          exact Leads.replace present
        · rw [put_eq_append present]
          exact Leads.add present
    | decode readKey readValue n =>
        cases n with
        | scalar | sequence | aliasOf => exact Leads.keep rfl
        | mapping line tag entries =>
            change Leads m.entries _
              (MapReading.readEntries readKey readValue empty entries).entries.entries
              (MapReading.readEntries readKey readValue empty entries).fault
            rcases exists_reads readKey readValue entries with
              ⟨pairs, all⟩ | ⟨before, entry, after, pairs, e, rfl, start, refused⟩
            · rcases readEntries_of_reads all with ⟨read, clean⟩
              rw [read, clean]
              exact Leads.complete all
            · rcases readEntries_of_reads_refused after start refused with ⟨read, failed⟩
              rw [read, failed]
              exact Leads.stop start refused

/-- The pairs of a map after changes are the only ones that the rules allow. -/
theorem derives_iff {m : OrderedMap V} {changes : List (Change V)} {pairs : List (String × V)} :
    Derives m.entries changes pairs ↔ pairs = (changes.foldl apply m).entries := by
  induction changes generalizing m with
  | nil =>
      constructor
      · intro derives
        cases derives
        rfl
      · rintro rfl
        exact Derives.nil _
  | cons change changes ih =>
      rw [List.foldl_cons, ← ih]
      constructor
      · intro derives
        cases derives with
        | cons first others =>
            rcases leads_iff.mp first with ⟨rfl, -⟩
            exact others
      · intro others
        exact Derives.cons (leads_iff.mpr ⟨rfl, rfl⟩) others

/-! ## Two parts -/

/-- A map in two parts: a list of keys and, apart from it, a table of values. -/
structure Split (V : Type) where
  keys : List String
  table : String → Option V

/-- The two parts of a map. -/
def split (m : OrderedMap V) : Split V := ⟨m.keys, m.get?⟩

namespace Split

/-- No keys and no values. -/
def empty : Split V := ⟨[], fun _ => none⟩

/-- Stores a value in the table. A key that the table lacks comes last in the list. -/
def set (s : Split V) (key : String) (value : V) : Split V :=
  ⟨if (s.table key).isSome then s.keys else s.keys ++ [key],
    Function.update s.table key (some value)⟩

/-- Reads entries into both parts. The table tells whether a key was read before. -/
def readEntries (readKey : Node → Except Error String) (readValue : Node → Except Error V) :
    Split V → List (Node × Node) → Split V × Option Error
  | s, [] => (s, none)
  | s, (k, v) :: rest =>
    match readKey k with
    | .error e => (s, some e)
    | .ok key =>
      if (s.table key).isSome then (s, some (.yaml (.repeatedKey k.line key)))
      else
        match readValue v with
        | .error e => (s, some (.within key e))
        | .ok value =>
          readEntries readKey readValue
            ⟨s.keys ++ [key], Function.update s.table key (some value)⟩ rest

/-- What a change makes of the parts, and how a reading fails. -/
def perform (s : Split V) : Change V → Split V × Option Error
  | .set key value => (s.set key value, none)
  | .decode readKey readValue (.mapping _ _ entries) =>
    readEntries readKey readValue empty entries
  | .decode _ _ n => (s, some (.yaml (.notMapping n.line n.kindName)))

/-- The parts after a change. -/
def apply (s : Split V) (change : Change V) : Split V := (s.perform change).1

end Split

theorem get?_insert_eq_update (m : OrderedMap V) (key : String) (value : V) :
    (m.insert key value).get? = Function.update m.get? key (some value) := by
  funext other
  rw [get?_insert, Function.update_apply]
  exact if_congr eq_comm rfl rfl

theorem isSome_get?_iff {m : OrderedMap V} {key : String} :
    (m.get? key).isSome = true ↔ key ∈ m.keys := contains_iff

theorem set_split (m : OrderedMap V) (key : String) (value : V) :
    m.split.set key value = (m.insert key value).split := by
  rw [split, split, get?_insert_eq_update, keys_insert, Split.set]
  simp only [isSome_get?_iff]

/-- Entries are read into the two parts of a map as into the map. -/
theorem readEntries_split (readKey : Node → Except Error String)
    (readValue : Node → Except Error V) (m : OrderedMap V) (entries : List (Node × Node)) :
    Split.readEntries readKey readValue m.split entries =
      ((MapReading.readEntries readKey readValue m entries).entries.split,
        (MapReading.readEntries readKey readValue m entries).fault) := by
  induction entries generalizing m with
  | nil => rfl
  | cons entry rest ih =>
      rcases reads_or_refused readKey readValue m.keys entry with
        ⟨pair, key, value, absent⟩ | ⟨e, refused⟩
      · have free : (m.split.table pair.1).isSome = false := by
          rw [Bool.eq_false_iff, ne_eq]
          exact absent ∘ isSome_get?_iff.mp
        have stored : (⟨m.split.keys ++ [pair.1],
            Function.update m.split.table pair.1 (some pair.2)⟩ : Split V) =
              (m.insert pair.1 pair.2).split := by
          rw [← set_split, Split.set, free]
          rfl
        rw [readEntries_cons key value absent, ← ih, ← stored]
        simp [Split.readEntries, key, value, free]
      · rw [readEntries_of_refused refused]
        cases refused with
        | badKey bad => simp [Split.readEntries, bad]
        | repeated good present =>
            have found := isSome_get?_iff.mpr present
            simp [Split.readEntries, good, split, found]
        | badValue good absent bad =>
            have free := mt isSome_get?_iff.mp absent
            simp [Split.readEntries, good, bad, split, free]

/-- A change keeps the two parts of a map in step with it. -/
theorem perform_split (m : OrderedMap V) (change : Change V) :
    m.split.perform change = ((m.perform change).entries.split, (m.perform change).fault) := by
  cases change with
  | set key value => exact congrArg (·, none) (set_split m key value)
  | decode readKey readValue n =>
      cases n with
      | mapping line tag entries => exact readEntries_split readKey readValue empty entries
      | scalar | sequence | aliasOf => rfl

theorem foldl_apply_split (m : OrderedMap V) (changes : List (Change V)) :
    changes.foldl Split.apply m.split = (changes.foldl apply m).split := by
  induction changes generalizing m with
  | nil => rfl
  | cons change changes ih =>
      rw [List.foldl_cons, List.foldl_cons, Split.apply, perform_split]
      exact ih (m.apply change)

/-- Each entry is found under its key. -/
theorem map_get?_keys (m : OrderedMap V) :
    m.keys.map (fun key => (key, m.get? key)) = m.toList.map fun e => (e.1, some e.2) := by
  rw [keys, List.map_map, toList]
  apply List.map_congr_left
  rintro ⟨key, value⟩ mem
  exact congrArg (key, ·) (get?_eq_some_iff.mpr mem)

/-- After any changes of an empty map its pairs are the only ones that the rules allow, and the
next change follows the rules again. A list of keys and a table of values that are changed apart
from each other stay the two parts of the map and fail like it; no key stands twice in the list,
and it has exactly the keys of the table. What a map tells about its keys and its entries agrees.
Reading succeeds exactly on a mapping all of whose entries can be read under distinct keys. -/
theorem changes_exact (changes : List (Change V)) :
    let m := changes.foldl apply empty
    let s := changes.foldl Split.apply Split.empty
    (∀ pairs, Derives [] changes pairs ↔ pairs = m.toList) ∧
      (∀ change pairs fault, Leads m.toList change pairs fault ↔
        pairs = (m.perform change).entries.toList ∧ fault = (m.perform change).fault) ∧
      (s.keys = m.keys ∧ s.table = m.get? ∧ s.keys.Nodup ∧
        ∀ key, key ∈ s.keys ↔ (s.table key).isSome = true) ∧
      (∀ change, (s.perform change).2 = (m.perform change).fault) ∧
      (m.size = m.keys.length ∧ (∀ key, m.contains key = (m.get? key).isSome) ∧
        m.keys.map (fun key => (key, m.get? key)) = m.toList.map fun e => (e.1, some e.2)) ∧
      ∀ readKey readValue n, (m.perform (.decode readKey readValue n)).fault = none ↔
        ∃ line tag entries pairs, n = .mapping line tag entries ∧
          Reads readKey readValue entries pairs := by
  intro m s
  have parts : s = m.split := foldl_apply_split empty changes
  refine ⟨fun pairs => derives_iff (m := empty), fun change pairs fault => leads_iff, ?_, ?_,
    ⟨(List.length_map _).symm, fun key => rfl, map_get?_keys m⟩, ?_⟩
  · rw [parts]
    exact ⟨rfl, rfl, m.nodup_keys, fun key => isSome_get?_iff.symm⟩
  · intro change
    rw [parts, perform_split]
  · intro readKey readValue n
    cases n with
    | mapping line tag entries =>
        refine fault_readEntries_eq_none_iff.trans ⟨?_, ?_⟩
        · rintro ⟨pairs, reads⟩
          exact ⟨line, tag, entries, pairs, rfl, reads⟩
        · rintro ⟨_, _, _, pairs, same, reads⟩
          cases same
          exact ⟨pairs, reads⟩
    | scalar | sequence | aliasOf =>
        constructor
        · intro clean
          exact nomatch clean
        · rintro ⟨_, _, _, _, same, -⟩
          exact nomatch same

end ApiCompiler.OrderedMap
