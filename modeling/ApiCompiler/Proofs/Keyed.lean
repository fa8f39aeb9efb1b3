import Mathlib.Data.List.Induction
import Mathlib.Data.List.Nodup

/-!
# Lists of entries with keys

`List.eraseDups` gives the keys of a list in the order of first appearance. Where no key
stands twice, an entry is found under its key, from the front as from the back.
-/

namespace ApiCompiler.Keyed

/-! ## First appearance -/

section

variable {κ : Type} [BEq κ] [LawfulBEq κ]

/-- A key that comes last appears there first only if it is new. -/
theorem eraseDups_concat (ks : List κ) (k : κ) :
    (ks ++ [k]).eraseDups = if ks.elem k then ks.eraseDups else ks.eraseDups ++ [k] := by
  rw [List.eraseDups_append]
  by_cases present : k ∈ ks
  · simp [List.removeAll, present]
  · simp [List.removeAll, present, List.eraseDups_cons]

theorem elem_eraseDups (ks : List κ) (k : κ) : ks.eraseDups.elem k = ks.elem k := by
  simp [List.mem_eraseDups]

theorem nodup_eraseDups (ks : List κ) : ks.eraseDups.Nodup := by
  induction ks using List.reverseRecOn with
  | nil => exact List.nodup_nil
  | append_singleton ks k ih =>
      rw [eraseDups_concat]
      split
      · exact ih
      · rename_i absent
        rw [List.elem_iff] at absent
        refine List.nodup_append.mpr ⟨ih, List.nodup_singleton k, ?_⟩
        intro a first b second
        rw [List.mem_eraseDups] at first
        rw [List.mem_singleton.mp second]
        exact fun same => absent (same ▸ first)

theorem eraseDups_append_eraseDups (ks more : List κ) :
    (ks ++ more.eraseDups).eraseDups = (ks ++ more).eraseDups := by
  induction more using List.reverseRecOn with
  | nil => rfl
  | append_singleton more k ih =>
      rw [eraseDups_concat more, ← List.append_assoc, eraseDups_concat (ks ++ more)]
      split
      · rename_i present
        rw [List.elem_iff] at present
        rw [ih, if_pos (List.elem_iff.mpr (List.mem_append_right ks present))]
      · have elem : (ks ++ more.eraseDups).elem k = (ks ++ more).elem k := by
          simp [List.mem_eraseDups]
        rw [← List.append_assoc, eraseDups_concat, ih, elem]

theorem eraseDups_eraseDups_append (ks more : List κ) :
    (ks.eraseDups ++ more).eraseDups = (ks ++ more).eraseDups := by
  induction more using List.reverseRecOn with
  | nil =>
      rw [List.append_nil, List.append_nil]
      exact eraseDups_append_eraseDups [] ks
  | append_singleton more k ih =>
      have elem : (ks.eraseDups ++ more).elem k = (ks ++ more).elem k := by
        simp [List.mem_eraseDups]
      rw [← List.append_assoc, ← List.append_assoc, eraseDups_concat, eraseDups_concat, ih, elem]

end

/-! ## Search -/

section

variable {α κ : Type} {key : α → κ}

theorem findRev?_append (p : α → Bool) (xs ys : List α) :
    (xs ++ ys).findRev? p = (ys.findRev? p).or (xs.findRev? p) := by
  simp only [List.findRev?_eq_find?_reverse, List.reverse_append, List.find?_append]

variable [BEq κ] [LawfulBEq κ]

theorem find?_key_of_nodup {as : List α} (distinct : (as.map key).Nodup) {a : α} (mem : a ∈ as) :
    as.find? (key · == key a) = some a := by
  induction as with
  | nil => exact nomatch mem
  | cons b rest ih =>
      rw [List.map_cons, List.nodup_cons] at distinct
      rcases List.mem_cons.mp mem with rfl | mem
      · simp
      · have other : key b ≠ key a := fun same => distinct.1 (same ▸ List.mem_map_of_mem mem)
        rw [List.find?_cons_of_neg (by simpa using other)]
        exact ih distinct.2 mem

theorem findRev?_of_nodup {as : List α} (distinct : (as.map key).Nodup) (k : κ) :
    as.findRev? (key · == k) = as.find? (key · == k) := by
  rw [List.findRev?_eq_find?_reverse]
  cases found : as.find? (key · == k) with
  | none =>
      rw [List.find?_eq_none] at found ⊢
      exact fun a mem => found a (List.mem_reverse.mp mem)
  | some a =>
      have named : key a = k := by simpa using List.find?_some found
      subst named
      have reversed : (as.reverse.map key).Nodup := by
        rw [List.map_reverse]
        exact List.nodup_reverse.mpr distinct
      exact find?_key_of_nodup reversed (List.mem_reverse.mpr (List.mem_of_find?_eq_some found))

end

end ApiCompiler.Keyed
