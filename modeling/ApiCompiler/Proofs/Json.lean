import ApiCompiler.Describe.Document
import ApiCompiler.Proofs.Text
import Mathlib.Data.List.Forall2

/-!
# JSON values

Documents are compared as values, without regard to the order of the keys of objects, and with
their texts as they are shown. An object is read key by key, and entries that are left out are read
as an empty text, an empty list, or nothing.
-/

namespace ApiCompiler

open Text

namespace Json

/-! ## Documents as values -/

mutual

/-- A value with its texts as they are shown and the entries of every object in the order of their
keys. -/
def canonical : Json → Json
  | str s => str s.shown
  | arr items => arr (canonicalAll items)
  | obj entries => obj (Value.sortedEntries (canonicalEntries entries))
  | v => v

/-- The canonical forms of several values. -/
def canonicalAll : List Json → List Json
  | [] => []
  | v :: rest => v.canonical :: canonicalAll rest

/-- The entries of an object with their values in canonical form. -/
def canonicalEntries : List (String × Json) → List (String × Json)
  | [] => []
  | (k, v) :: rest => (k, v.canonical) :: canonicalEntries rest

end

/-- Two values differ at most in the order of the keys of objects, and in bytes that cannot be
shown. -/
def Same (a b : Json) : Prop := a.canonical = b.canonical

theorem canonicalAll_eq_map (items : List Json) : canonicalAll items = items.map canonical := by
  induction items with
  | nil => rfl
  | cons v rest ih => rw [canonicalAll, ih, List.map_cons]

@[simp]
theorem canonicalEntries_nil : canonicalEntries [] = [] := rfl

@[simp]
theorem canonicalEntries_cons (e : String × Json) (rest : List (String × Json)) :
    canonicalEntries (e :: rest) = (e.1, e.2.canonical) :: canonicalEntries rest := rfl

theorem canonicalEntries_append (es fs : List (String × Json)) :
    canonicalEntries (es ++ fs) = canonicalEntries es ++ canonicalEntries fs := by
  induction es with
  | nil => rfl
  | cons e rest ih => rw [List.cons_append, canonicalEntries_cons, ih]; rfl

theorem Same.refl (a : Json) : a.Same a := rfl

@[simp]
theorem same_arr_iff {as bs : List Json} : Same (arr as) (arr bs) ↔ List.Forall₂ Same as bs := by
  simp only [Same, canonical, canonicalAll_eq_map, Json.arr.injEq]
  induction as generalizing bs with
  | nil => cases bs <;> simp
  | cons a as ih => cases bs <;> simp [Same, ih]

/-! ## Looking up a key -/

/-- The value under a key of an object. -/
def get? (key : String) (entries : List (String × Json)) : Option Json :=
  (entries.find? (·.1 == key)).map (·.2)

variable {key other : String}

@[simp]
theorem get?_nil : get? key [] = none := rfl

@[simp]
theorem get?_cons (e : String × Json) (rest : List (String × Json)) :
    get? key (e :: rest) = if e.1 = key then some e.2 else get? key rest := by
  unfold get?
  rw [List.find?_cons]
  by_cases same : e.1 = key
  · simp [same]
  · simp [same, beq_eq_false_iff_ne.mpr same]

@[simp]
theorem get?_append (es fs : List (String × Json)) :
    get? key (es ++ fs) = (get? key es).or (get? key fs) := by
  unfold get?
  rw [List.find?_append, Option.map_or]

/-- Sorting leaves the entries under one key as they stand. -/
theorem filter_sortedEntries (es : List (String × Json)) (key : String) :
    (Value.sortedEntries es).filter (·.1 == key) = es.filter (·.1 == key) := by
  have perm : (Value.sortedEntries es).Perm es := List.mergeSort_perm es _
  -- entries under one key are in order already, so the stable sort keeps them in sequence
  have kept : (es.filter (·.1 == key)).Sublist (Value.sortedEntries es) := by
    apply List.sublist_mergeSort
    · exact fun _ _ _ => Text.le_trans
    · exact fun _ _ => Text.le_total _ _
    · rw [List.pairwise_filter]
      apply List.pairwise_of_forall
      intro a b first second
      have same : a.1 = b.1 := (beq_iff_eq.mp first).trans (beq_iff_eq.mp second).symm
      exact Text.le_eq_true_iff.mpr (same ▸ Std.le_refl (a := a.1))
    · exact List.filter_sublist
  have inside := kept.filter (·.1 == key)
  simp only [List.filter_filter, Bool.and_self] at inside
  exact (inside.eq_of_length (perm.filter _).length_eq.symm).symm

theorem get?_sortedEntries (es : List (String × Json)) :
    get? key (Value.sortedEntries es) = get? key es := by
  unfold get?
  rw [← List.head?_filter, ← List.head?_filter, filter_sortedEntries]

theorem get?_canonicalEntries (es : List (String × Json)) :
    get? key (canonicalEntries es) = (get? key es).map canonical := by
  induction es with
  | nil => rfl
  | cons e rest ih =>
      rw [canonicalEntries_cons, get?_cons, get?_cons, ih]
      split
      · rfl
      · rfl

/-- The text under a key as it is shown; the empty one if there is none. -/
def textOf : Option Json → String
  | some (str s) => s.shown
  | _ => ""

@[simp]
theorem textOf_str (s : RawText) : textOf (some (str s)) = s.shown := rfl

/-- The items of the list under a key; none if there is no list. -/
def itemsOf : Option Json → List Json
  | some (arr items) => items
  | _ => []

@[simp]
theorem itemsOf_arr (items : List Json) : itemsOf (some (arr items)) = items := rfl

theorem textOf_canonical (v : Option Json) : textOf (v.map canonical) = textOf v := by
  cases v with
  | none => rfl
  | some v => cases v <;> rfl

theorem itemsOf_canonical (v : Option Json) :
    itemsOf (v.map canonical) = (itemsOf v).map canonical := by
  cases v with
  | none => rfl
  | some v =>
      cases v with
      | arr items => exact canonicalAll_eq_map items
      | _ => rfl

section Objects

variable {es fs : List (String × Json)}

/-- Objects that are the same have the same values under each key. -/
theorem Same.get? (same : Same (obj es) (obj fs)) (key : String) :
    (get? key es).map canonical = (get? key fs).map canonical := by
  have sorted := Json.obj.inj same
  rw [← get?_canonicalEntries, ← get?_canonicalEntries, ← get?_sortedEntries, sorted,
    get?_sortedEntries]

theorem Same.text (same : Same (obj es) (obj fs)) (key : String) :
    textOf (Json.get? key es) = textOf (Json.get? key fs) := by
  rw [← textOf_canonical, same.get?, textOf_canonical]

theorem Same.items (same : Same (obj es) (obj fs)) (key : String) :
    List.Forall₂ Same (itemsOf (Json.get? key es)) (itemsOf (Json.get? key fs)) := by
  have items := congrArg itemsOf (same.get? key)
  rw [itemsOf_canonical, itemsOf_canonical] at items
  rw [← same_arr_iff, Same, canonical, canonical, canonicalAll_eq_map, canonicalAll_eq_map, items]

theorem Same.value (same : Same (obj es) (obj fs)) (key : String) :
    Option.Rel Same (Json.get? key es) (Json.get? key fs) := by
  have values := same.get? key
  cases first : Json.get? key es <;> cases second : Json.get? key fs
  all_goals rw [first, second] at values
  · exact .none
  · exact nomatch values
  · exact nomatch values
  · exact .some (Option.some.inj values)

/-- Entries that are the same one by one make the same object. -/
theorem same_obj_of_eq (same : canonicalEntries es = canonicalEntries fs) :
    Same (obj es) (obj fs) :=
  congrArg (fun es => obj (Value.sortedEntries es)) same

end Objects

/-! ## Entries that may be missing -/

@[simp]
theorem get?_textEntry_of_ne {s : RawText} (different : other ≠ key) :
    get? key (textEntry other s) = none := by
  unfold textEntry
  split
  · rfl
  · simp [different]

@[simp]
theorem get?_listEntry_of_ne {items : List Json} (different : other ≠ key) :
    get? key (listEntry other items) = none := by
  unfold listEntry
  split
  · rfl
  · simp [different]

@[simp]
theorem get?_optionEntry_of_ne {v : Option Json} (different : other ≠ key) :
    get? key (optionEntry other v) = none := by
  cases v with
  | none => rfl
  | some v => simp [optionEntry, different]

@[simp]
theorem textOf_textEntry (s : RawText) : textOf (get? key (textEntry key s)) = s.shown := by
  unfold textEntry
  split
  · rename_i empty
    rw [empty]
    rfl
  · simp [textOf]

@[simp]
theorem itemsOf_listEntry (items : List Json) :
    itemsOf (get? key (listEntry key items)) = items := by
  unfold listEntry
  split
  · rename_i empty
    exact (List.isEmpty_iff.mp empty).symm
  · simp [itemsOf]

@[simp]
theorem get?_optionEntry (v : Option Json) : get? key (optionEntry key v) = v := by
  cases v with
  | none => rfl
  | some v => simp [optionEntry]

@[simp]
theorem canonicalEntries_textEntry (key : String) (s : RawText) :
    canonicalEntries (textEntry key s) = textEntry key s.shown := by
  by_cases empty : s = .text ""
  · rw [empty]
    rfl
  · have shown : ¬RawText.text s.shown = .text "" := fun same =>
      empty (RawText.shown_eq_empty_iff.mp (RawText.text.inj same))
    rw [textEntry, textEntry, if_neg empty, if_neg shown]
    rfl

theorem canonicalEntries_listEntry {items others : List Json}
    (same : List.Forall₂ Same items others) (key : String) :
    canonicalEntries (listEntry key items) = canonicalEntries (listEntry key others) := by
  cases same with
  | nil => rfl
  | cons first rest =>
      have all := same_arr_iff.mpr (List.Forall₂.cons first rest)
      simp [listEntry, show canonical _ = canonical _ from all]

theorem canonicalEntries_optionEntry {v w : Option Json} (same : Option.Rel Same v w)
    (key : String) :
    canonicalEntries (optionEntry key v) = canonicalEntries (optionEntry key w) := by
  cases same with
  | none => rfl
  | some same => simp [optionEntry, show canonical _ = canonical _ from same]

end Json

end ApiCompiler
