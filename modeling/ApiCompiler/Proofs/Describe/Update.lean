import ApiCompiler.Describe.Service
import ApiCompiler.Proofs.Keyed

/-!
# Combining services

Two services are combined by merging their methods of authentication and their endpoints.
A merge of a list keeps every key once, in the order of first appearance, with the last
entry that has it. This determines the merged list, so merging is associative.
-/

namespace ApiCompiler.ServiceDescription

open Keyed

variable {α κ : Type} [BEq κ] {key : α → κ}

/-- A list with one entry for every key of another list: the keys stand in the order of first
appearance, each with the last entry that has it. -/
structure IsMerge (key : α → κ) (entries merged : List α) : Prop where
  keys : merged.map key = (entries.map key).eraseDups
  last : ∀ k, merged.find? (key · == k) = entries.findRev? (key · == k)

variable [LawfulBEq κ]

/-! ## One entry -/

theorem map_key_upsert (merged : List α) (a : α) :
    (upsert key merged a).map key =
      if (merged.map key).elem (key a) then merged.map key else merged.map key ++ [key a] := by
  induction merged with
  | nil => rfl
  | cons b rest ih =>
      by_cases same : key b = key a
      · simp [upsert, same]
      · simp only [upsert, beq_iff_eq, same, if_false, List.map_cons, ih, List.elem_eq_mem,
          List.mem_cons, Ne.symm same, false_or]
        split <;> rfl

theorem find?_upsert (merged : List α) (a : α) (k : κ) :
    (upsert key merged a).find? (key · == k) =
      if key a == k then some a else merged.find? (key · == k) := by
  induction merged with
  | nil =>
      by_cases hit : key a = k
      · simp [upsert, hit]
      · simp [upsert, hit]
  | cons b rest ih =>
      by_cases same : key b = key a
      · by_cases hit : key a = k
        · simp [upsert, same, hit]
        · simp [upsert, same, hit]
      · by_cases hit : key b = k
        · subst hit
          simp [upsert, same, Ne.symm same]
        · simp [upsert, same, hit, ih]

/-- One more entry is merged in. -/
theorem IsMerge.upsert {entries merged : List α} (merge : IsMerge key entries merged) (a : α) :
    IsMerge key (entries ++ [a]) (upsert key merged a) where
  keys := by
    rw [map_key_upsert, merge.keys, List.map_append, List.map_singleton, eraseDups_concat,
      elem_eraseDups]
  last k := by
    rw [find?_upsert, merge.last, findRev?_append]
    by_cases hit : key a = k
    · simp [List.findRev?, hit]
    · simp [List.findRev?, hit]

/-! ## Whole lists -/

theorem isMerge_foldl_upsert (key : α → κ) (entries : List α) :
    IsMerge key entries (entries.foldl (ServiceDescription.upsert key) []) := by
  induction entries using List.reverseRecOn with
  | nil => exact ⟨rfl, fun _ => rfl⟩
  | append_singleton entries a ih =>
      rw [List.foldl_concat]
      exact ih.upsert a

namespace IsMerge

variable {entries merged merged' : List α}

theorem nodup_keys (merge : IsMerge key entries merged) : (merged.map key).Nodup :=
  merge.keys ▸ nodup_eraseDups _

/-- A list has only one merge. -/
theorem unique (merge : IsMerge key entries merged) (merge' : IsMerge key entries merged') :
    merged = merged' := by
  have keys : merged.map key = merged'.map key := merge.keys.trans merge'.keys.symm
  have length : merged.length = merged'.length := by simpa using congrArg List.length keys
  apply List.ext_getElem length
  intro i bound bound'
  have same : key merged[i] = key merged'[i] := by
    have here := congrArg (·[i]?) keys
    simpa [bound, bound'] using here
  have found := find?_key_of_nodup merge.nodup_keys (List.getElem_mem bound)
  have found' := find?_key_of_nodup merge'.nodup_keys (List.getElem_mem bound')
  rw [merge.last, same] at found
  rw [merge'.last, found] at found'
  exact Option.some.inj found'

theorem findRev?_eq (merge : IsMerge key entries merged) (k : κ) :
    merged.findRev? (key · == k) = entries.findRev? (key · == k) :=
  (findRev?_of_nodup merge.nodup_keys k).trans (merge.last k)

/-- What was merged before may stand for the entries that it comes from. -/
theorem append_left {more : List α} (merge : IsMerge key entries merged)
    (again : IsMerge key (merged ++ more) merged') : IsMerge key (entries ++ more) merged' where
  keys := by
    rw [again.keys, List.map_append, List.map_append, merge.keys, eraseDups_eraseDups_append]
  last k := by rw [again.last, findRev?_append, findRev?_append, merge.findRev?_eq]

theorem append_right {before : List α} (merge : IsMerge key entries merged)
    (again : IsMerge key (before ++ merged) merged') :
    IsMerge key (before ++ entries) merged' where
  keys := by
    rw [again.keys, List.map_append, List.map_append, merge.keys, eraseDups_append_eraseDups]
  last k := by rw [again.last, findRev?_append, findRev?_append, merge.findRev?_eq]

end IsMerge

/-- Merging is associative. -/
theorem foldl_upsert_assoc (key : α → κ) (as bs cs : List α) :
    (((as ++ bs).foldl (upsert key) []) ++ cs).foldl (upsert key) [] =
      (as ++ (bs ++ cs).foldl (upsert key) []).foldl (upsert key) [] := by
  have left := (isMerge_foldl_upsert key (as ++ bs)).append_left
    (isMerge_foldl_upsert key (_ ++ cs))
  have right := (isMerge_foldl_upsert key (bs ++ cs)).append_right
    (isMerge_foldl_upsert key (as ++ _))
  rw [List.append_assoc] at left
  exact left.unique right

/-- Combining services is associative. In a combination of two services no method of
authentication and no endpoint name stands twice: they stand in the order of first appearance in
both lists, each with the last entry that has it, so the entry of the other service counts. The
name is the other's, and so is the documentation unless it is empty. -/
theorem update_exact (s t u : ServiceDescription) :
    (s.update t).update u = s.update (t.update u) ∧
      ((s.update t).auth.map (·.method)).Nodup ∧
      ((s.update t).endpoints.map (·.name)).Nodup ∧
      IsMerge (·.method) (s.auth ++ t.auth) (s.update t).auth ∧
      IsMerge (·.name) (s.endpoints ++ t.endpoints) (s.update t).endpoints ∧
      (∀ method a, t.auth.findRev? (·.method == method) = some a →
        (s.update t).auth.find? (·.method == method) = some a) ∧
      (∀ name e, t.endpoints.findRev? (·.name == name) = some e →
        (s.update t).endpoints.find? (·.name == name) = some e) ∧
      (s.update t).name = t.name ∧
      (s.update t).docs = if t.docs = "" then s.docs else t.docs := by
  have auth := isMerge_foldl_upsert (·.method) (s.auth ++ t.auth)
  have endpoints := isMerge_foldl_upsert (·.name) (s.endpoints ++ t.endpoints)
  refine ⟨?_, auth.nodup_keys, endpoints.nodup_keys, auth, endpoints, ?_, ?_, rfl, ?_⟩
  · simp only [update, foldl_upsert_assoc]
    congr 1
    by_cases last : u.docs = ""
    · simp [last]
    · simp [last]
  · intro method a found
    exact (auth.last method).trans (by rw [findRev?_append, found, Option.some_or])
  · intro name e found
    exact (endpoints.last name).trans (by rw [findRev?_append, found, Option.some_or])
  · simp only [update, beq_iff_eq]

end ApiCompiler.ServiceDescription
