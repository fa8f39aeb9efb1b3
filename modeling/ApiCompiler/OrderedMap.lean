/-!
# Ordered maps

A map from texts to values that remembers the order in which keys were first inserted.
Definition files are mappings whose order carries meaning, so every mapping is read into
one of these. No key stands twice in a map.
-/

namespace ApiCompiler

/-- Keys with their values, in order of first insertion. -/
structure OrderedMap (V : Type) where
  entries : List (String × V)
  nodup_keys : (entries.map (·.1)).Nodup
deriving Repr, DecidableEq

namespace OrderedMap

variable {V : Type}

instance [BEq V] : BEq (OrderedMap V) := ⟨fun a b => a.entries == b.entries⟩

/-- The map without entries. -/
def empty : OrderedMap V := ⟨[], List.nodup_nil⟩

instance : Inhabited (OrderedMap V) := ⟨empty⟩

/-- The value of the first entry with a key. -/
def find : List (String × V) → String → Option V
  | [], _ => none
  | (k, v) :: rest, key => if k = key then some v else find rest key

/-- Replaces the value of a key in place, or adds the key at the end. -/
def put : List (String × V) → String → V → List (String × V)
  | [], key, value => [(key, value)]
  | (k, v) :: rest, key, value =>
    if k = key then (k, value) :: rest else (k, v) :: put rest key value

/-- A present key keeps its position, and a new one comes last. -/
theorem map_fst_put (entries : List (String × V)) (key : String) (value : V) :
    (put entries key value).map (·.1) =
      if key ∈ entries.map (·.1) then entries.map (·.1) else entries.map (·.1) ++ [key] := by
  induction entries with
  | nil => simp [put]
  | cons e rest ih =>
    obtain ⟨k, v⟩ := e
    by_cases same : k = key
    · simp [put, same]
    · simp only [put, same, if_false, List.map_cons, ih, List.mem_cons, Ne.symm same, false_or]
      split <;> simp

theorem put_eq_append {entries : List (String × V)} {key : String} {value : V}
    (absent : key ∉ entries.map (·.1)) : put entries key value = entries ++ [(key, value)] := by
  induction entries with
  | nil => rfl
  | cons e rest ih =>
    obtain ⟨k, v⟩ := e
    rw [List.map_cons, List.mem_cons, not_or] at absent
    simp [put, Ne.symm absent.1, ih absent.2]

theorem nodup_keys_put {entries : List (String × V)} (distinct : (entries.map (·.1)).Nodup)
    (key : String) (value : V) : ((put entries key value).map (·.1)).Nodup := by
  rw [map_fst_put]
  split
  · exact distinct
  · rename_i absent
    rw [List.nodup_append]
    refine ⟨distinct, List.pairwise_singleton _ key, fun a mem b last same => ?_⟩
    rw [List.mem_singleton] at last
    exact absent (last ▸ same ▸ mem)

/-- Stores a value under a key. A present key keeps its position. -/
def insert (m : OrderedMap V) (key : String) (value : V) : OrderedMap V :=
  ⟨put m.entries key value, nodup_keys_put m.nodup_keys key value⟩

/-- The map without a key. -/
def erase (m : OrderedMap V) (key : String) : OrderedMap V :=
  ⟨m.entries.filter fun e => e.1 != key, m.nodup_keys.sublist (List.filter_sublist.map _)⟩

/-- The value stored under a key. -/
def get? (m : OrderedMap V) (key : String) : Option V := find m.entries key

/-- Storing a value changes what is found under its key, and nothing else. -/
theorem find_put (entries : List (String × V)) (key : String) (value : V) (other : String) :
    find (put entries key value) other =
      if key = other then some value else find entries other := by
  induction entries with
  | nil => simp [put, find]
  | cons e rest ih =>
    obtain ⟨k, v⟩ := e
    by_cases same : k = key
    · subst same
      by_cases hit : k = other <;> simp [put, find, hit]
    · by_cases hit : k = other
      · subst hit
        simp [put, find, same, Ne.symm same]
      · simp [put, find, same, hit, ih]

theorem find_eq_none_iff {entries : List (String × V)} {key : String} :
    find entries key = none ↔ key ∉ entries.map (·.1) := by
  induction entries with
  | nil => simp [find]
  | cons e rest ih =>
    obtain ⟨k, v⟩ := e
    by_cases hit : k = key
    · simp [find, hit]
    · simp [find, hit, ih, Ne.symm hit]

/-- Without repeated keys an entry is found exactly if it is present. -/
theorem find_eq_some_iff {entries : List (String × V)} (distinct : (entries.map (·.1)).Nodup)
    {key : String} {value : V} : find entries key = some value ↔ (key, value) ∈ entries := by
  induction entries with
  | nil => simp [find]
  | cons e rest ih =>
    obtain ⟨k, v⟩ := e
    rw [List.map_cons, List.nodup_cons] at distinct
    by_cases hit : k = key
    · subst hit
      have absent : (k, value) ∉ rest := fun mem =>
        distinct.1 (List.mem_map.mpr ⟨(k, value), mem, rfl⟩)
      simp [find, absent, eq_comm]
    · simp [find, hit, ih distinct.2, Ne.symm hit]

@[simp] theorem get?_empty (key : String) : (empty : OrderedMap V).get? key = none := rfl

theorem get?_insert (m : OrderedMap V) (key : String) (value : V) (other : String) :
    (m.insert key value).get? other = if key = other then some value else m.get? other :=
  find_put m.entries key value other

theorem get?_eq_some_iff {m : OrderedMap V} {key : String} {value : V} :
    m.get? key = some value ↔ (key, value) ∈ m.entries :=
  find_eq_some_iff m.nodup_keys

/-- A key is present. -/
def contains (m : OrderedMap V) (key : String) : Bool := (m.get? key).isSome

/-- The keys in order. -/
def keys (m : OrderedMap V) : List String := m.entries.map (·.1)

theorem get?_eq_none_iff {m : OrderedMap V} {key : String} : m.get? key = none ↔ key ∉ m.keys :=
  find_eq_none_iff

theorem keys_insert (m : OrderedMap V) (key : String) (value : V) :
    (m.insert key value).keys = if key ∈ m.keys then m.keys else m.keys ++ [key] :=
  map_fst_put m.entries key value

/-- The number of entries. -/
def size (m : OrderedMap V) : Nat := m.entries.length

/-- The entries in order. -/
def toList (m : OrderedMap V) : List (String × V) := m.entries

/-- The map of a list of entries; a repeated key keeps its first position and last value. -/
def ofList (entries : List (String × V)) : OrderedMap V :=
  entries.foldl (fun m (k, v) => m.insert k v) empty

/-- Entries without a repeated key are stored one behind the other. -/
theorem entries_foldl_insert {entries : List (String × V)} {m : OrderedMap V}
    (distinct : ((m.entries ++ entries).map (·.1)).Nodup) :
    (entries.foldl (fun m (k, v) => m.insert k v) m).entries = m.entries ++ entries := by
  induction entries generalizing m with
  | nil => simp
  | cons e rest ih =>
    have absent : e.1 ∉ m.entries.map (·.1) := by
      rw [List.map_append, List.nodup_append] at distinct
      intro mem
      exact distinct.2.2 _ mem _ (List.mem_map.mpr ⟨e, List.mem_cons_self, rfl⟩) rfl
    have stored : (m.insert e.1 e.2).entries = m.entries ++ [e] := put_eq_append absent
    have step : ((m.insert e.1 e.2).entries ++ rest) = m.entries ++ e :: rest := by
      rw [stored, List.append_assoc, List.singleton_append]
    rw [List.foldl_cons, ih (step ▸ distinct), step]

theorem entries_ofList {entries : List (String × V)} (distinct : (entries.map (·.1)).Nodup) :
    (ofList entries).entries = entries :=
  entries_foldl_insert distinct

/-- The entries of a map that may be absent. -/
def entriesOf (m : Option (OrderedMap V)) : List (String × V) :=
  match m with
  | some m => m.entries
  | none => []

end OrderedMap

end ApiCompiler
