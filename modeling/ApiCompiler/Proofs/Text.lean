import ApiCompiler.Text.Blank
import ApiCompiler.Text.Split
import Mathlib.Data.List.Basic
import Mathlib.Data.List.DropRight
import Mathlib.Data.List.TakeWhile

/-!
# Cutting, splitting, trimming and sorting

What the functions on texts remove, keep and put in order: a text is cut at the first occurrence
of a character and split at all of them, trimmed at its two ends, and sorted among other texts.
-/

namespace ApiCompiler.Text

section Cut

/-! ## Cutting at the first occurrence of a character

`cutAt` finds the first occurrence of a character if there is one, and what
stands before it does not contain the character.
-/

variable {sep : Char} {cs before after : List Char}

theorem cutAt_eq_none_iff : cutAt sep cs = none ↔ sep ∉ cs := by
  induction cs with
  | nil => simp [cutAt]
  | cons c rest ih =>
      by_cases same : c = sep
      · simp [cutAt, same]
      · simp [cutAt, same, Ne.symm same, ih]

theorem cutAt_eq_some_iff :
    cutAt sep cs = some (before, after) ↔ cs = before ++ sep :: after ∧ sep ∉ before := by
  induction cs generalizing before with
  | nil => simp [cutAt]
  | cons c rest ih =>
      by_cases same : c = sep
      · subst c
        cases before with
        | nil => simp [cutAt]
        | cons b before =>
            simp only [cutAt, if_true, Option.some.injEq, Prod.mk.injEq, reduceCtorEq, false_and,
              List.cons_append, List.cons.injEq, List.mem_cons, not_or, false_iff]
            rintro ⟨⟨first, _⟩, absent, _⟩
            exact absent first
      · cases before with
        | nil => simp [cutAt, same]
        | cons b before =>
            rw [cutAt, if_neg same, Option.map_eq_some_iff]
            constructor
            · rintro ⟨⟨front, back⟩, found, eq⟩
              obtain ⟨⟨rfl, rfl⟩, rfl⟩ : (c = b ∧ front = before) ∧ back = after := by
                simpa using eq
              obtain ⟨rfl, absent⟩ := ih.mp found
              exact ⟨rfl, by simp [Ne.symm same, absent]⟩
            · rintro ⟨split, absent⟩
              obtain ⟨rfl, rfl⟩ := List.cons.inj split
              exact ⟨(before, after), ih.mpr ⟨rfl, fun mem => absent (List.mem_cons_of_mem _ mem)⟩,
                rfl⟩

theorem cut_eq_some_iff {s front rest : String} : cut sep s = some (front, rest) ↔
    s.toList = front.toList ++ sep :: rest.toList ∧ sep ∉ front.toList := by
  rw [cut, Option.map_eq_some_iff, ← cutAt_eq_some_iff]
  constructor
  · rintro ⟨⟨before, after⟩, found, same⟩
    obtain ⟨rfl, rfl⟩ := Prod.mk.inj same
    rwa [String.toList_ofList, String.toList_ofList]
  · intro found
    exact ⟨_, found, congrArg₂ Prod.mk String.ofList_toList String.ofList_toList⟩

/-- A text up to the first occurrence of a character. -/
theorem concat_prefix_iff {word front rest : List Char} (word_plain : sep ∉ word)
    (front_plain : sep ∉ front) : word ++ [sep] <+: front ++ sep :: rest ↔ front = word := by
  constructor
  · rintro ⟨tail, same⟩
    have found : cutAt sep (front ++ sep :: rest) = some (word, tail) :=
      cutAt_eq_some_iff.mpr ⟨by rw [← same]; simp, word_plain⟩
    rw [cutAt_eq_some_iff.mpr ⟨rfl, front_plain⟩] at found
    cases found
    rfl
  · rintro rfl
    exact ⟨rest, by simp⟩

theorem occursIn_eq_true_iff {needle : List Char} : occursIn needle cs = true ↔ needle <:+: cs := by
  induction cs with
  | nil => simp [occursIn]
  | cons c rest ih =>
      rw [occursIn, Bool.or_eq_true, List.isPrefixOf_iff_prefix, ih, List.infix_cons_iff]

end Cut

section Split

/-! ## Splitting at a character

The pieces of a text do not contain the separator, the pieces of two texts with a separator
between them are those of both, and joining pieces is undone by splitting.
-/

variable {sep : Char}

theorem splitAt_ne_nil (cs : List Char) : splitAt sep cs ≠ [] := by
  induction cs with
  | nil => simp [splitAt]
  | cons c rest ih =>
    rw [splitAt]
    split
    · simp
    · split <;> simp

theorem splitAt_of_not_mem {cs : List Char} (absent : sep ∉ cs) : splitAt sep cs = [cs] := by
  induction cs with
  | nil => rfl
  | cons c rest ih =>
    rw [List.mem_cons, not_or] at absent
    rw [splitAt, if_neg (Ne.symm absent.1), ih absent.2]

theorem splitAt_append (before after : List Char) :
    splitAt sep (before ++ sep :: after) = splitAt sep before ++ splitAt sep after := by
  induction before with
  | nil => simp [splitAt]
  | cons c rest ih =>
    rw [List.cons_append, splitAt, splitAt, ih]
    split
    · rfl
    · cases pieces : splitAt sep rest with
      | nil => exact absurd pieces (splitAt_ne_nil rest)
      | cons piece others => rfl

theorem not_mem_of_mem_splitAt {cs piece : List Char} (mem : piece ∈ splitAt sep cs) :
    sep ∉ piece := by
  induction cs generalizing piece with
  | nil =>
    rw [splitAt, List.mem_singleton] at mem
    simp [mem]
  | cons c rest ih =>
    rw [splitAt] at mem
    split at mem
    · rcases List.mem_cons.mp mem with rfl | mem
      · simp
      · exact ih mem
    · rename_i different
      split at mem
      · rename_i first others pieces
        rw [pieces] at ih
        rcases List.mem_cons.mp mem with rfl | mem
        · rw [List.mem_cons, not_or]
          exact ⟨Ne.symm different, ih List.mem_cons_self⟩
        · exact ih (List.mem_cons_of_mem _ mem)
      · rename_i pieces
        exact absurd pieces (splitAt_ne_nil rest)

theorem split_of_not_mem {s : String} (absent : sep ∉ s.toList) : split sep s = [s] := by
  simp [split, splitAt_of_not_mem absent]

theorem not_mem_of_mem_split {s piece : String} (mem : piece ∈ split sep s) :
    sep ∉ piece.toList := by
  rcases List.mem_map.mp mem with ⟨cs, isPiece, rfl⟩
  rw [String.toList_ofList]
  exact not_mem_of_mem_splitAt isPiece

/-- The pieces on both sides of a separator. -/
theorem split_eq_append {s : String} {before after : List Char}
    (cut : s.toList = before ++ sep :: after) :
    split sep s = split sep (String.ofList before) ++ split sep (String.ofList after) := by
  simp [split, cut, splitAt_append]

theorem split_slash (s t : String) : split '/' (s ++ "/" ++ t) = split '/' s ++ split '/' t := by
  have cut : (s ++ "/" ++ t).toList = s.toList ++ '/' :: t.toList := by simp
  rw [split_eq_append cut, String.ofList_toList, String.ofList_toList]

/-- Joined pieces fall apart into the same pieces. -/
theorem split_joinWith_slash {pieces : List String} (nonempty : pieces ≠ [])
    (plain : ∀ piece ∈ pieces, '/' ∉ piece.toList) :
    split '/' (joinWith "/" pieces) = pieces := by
  induction pieces with
  | nil => exact absurd rfl nonempty
  | cons first rest ih =>
    have firstPlain := plain first List.mem_cons_self
    cases rest with
    | nil =>
      rw [joinWith, String.intercalate_singleton]
      exact split_of_not_mem firstPlain
    | cons second rest =>
      rw [joinWith, String.intercalate_cons_cons, ← joinWith, split_slash,
        split_of_not_mem firstPlain,
        ih (by simp) fun piece mem => plain piece (List.mem_cons_of_mem _ mem)]
      rfl

/-- Pieces that are joined again give the text. -/
theorem joinWith_split (s : String) : joinWith "/" (split '/' s) = s := by
  obtain ⟨cs, rfl⟩ : ∃ cs, s = String.ofList cs := ⟨s.toList, String.ofList_toList.symm⟩
  rw [split, String.toList_ofList]
  induction cs with
  | nil => rfl
  | cons c rest ih =>
    rw [splitAt]
    cases pieces : splitAt '/' rest with
    | nil => exact absurd pieces (splitAt_ne_nil rest)
    | cons piece others =>
      rw [pieces] at ih
      apply String.toList_inj.mp
      have rejoined := congrArg String.toList ih
      split
      · rename_i same
        rw [same, List.map_cons, List.map_cons, joinWith, String.intercalate_cons_cons,
          ← List.map_cons, ← joinWith, String.toList_append, String.toList_append, rejoined]
        simp
      · cases others with
        | nil => simpa [joinWith] using rejoined
        | cons second others =>
          simp only [joinWith, List.map_cons, String.intercalate_cons_cons, String.toList_append,
            String.toList_ofList] at rejoined ⊢
          rw [List.cons_append, List.cons_append, rejoined]

end Split

section Trim

/-! ## Trimming

What `trimBy` removes stands at the two ends and belongs to the class; what it
keeps begins and ends outside the class.
-/

variable {p : Char → Bool} {cs : List Char}

theorem dropEnd_eq_rdropWhile (p : Char → Bool) (cs : List Char) :
    dropEnd p cs = cs.rdropWhile p :=
  rfl

@[simp]
theorem trimBy_cons_of_pos {c : Char} (member : p c = true) (cs : List Char) :
    trimBy p (c :: cs) = trimBy p cs := by
  simp [trimBy, member]

/-- A text is its trimmed part between two runs of the class. -/
theorem exists_ends_trimBy (p : Char → Bool) (cs : List Char) :
    ∃ front back, cs = front ++ trimBy p cs ++ back ∧
      (∀ c ∈ front, p c = true) ∧ ∀ c ∈ back, p c = true := by
  refine ⟨cs.takeWhile p, (cs.dropWhile p).rtakeWhile p, ?_, ?_, ?_⟩
  · rw [List.append_assoc, trimBy, dropEnd_eq_rdropWhile,
      List.rdropWhile_append_rtakeWhile, List.takeWhile_append_dropWhile]
  · intro c mem
    exact List.mem_takeWhile_imp mem
  · intro c mem
    exact List.mem_rtakeWhile_imp mem

/-- The first character that is kept is outside the class. -/
theorem head?_trimBy {c : Char} (head : (trimBy p cs).head? = some c) : p c = false := by
  rw [trimBy, dropEnd_eq_rdropWhile] at head
  obtain ⟨rest, split⟩ := List.rdropWhile_prefix p (l := cs.dropWhile p)
  have first : (cs.dropWhile p).head? = some c := by
    rw [← split, List.head?_append, head]
    rfl
  have outside := List.head?_dropWhile_not p cs
  rw [first] at outside
  exact outside

/-- The last character that is kept is outside the class. -/
theorem getLast?_trimBy {c : Char} (last : (trimBy p cs).getLast? = some c) :
    p c = false := by
  rw [trimBy, dropEnd_eq_rdropWhile] at last
  have nonempty : (cs.dropWhile p).rdropWhile p ≠ [] := by
    intro empty
    simp [empty] at last
  rw [List.getLast?_eq_some_getLast nonempty] at last
  cases last
  simpa using List.rdropWhile_last_not p (cs.dropWhile p) nonempty

/-- A text that begins and ends outside the class is kept whole. -/
theorem trimBy_eq_self (head : ∀ c, cs.head? = some c → p c = false)
    (last : ∀ c, cs.getLast? = some c → p c = false) : trimBy p cs = cs := by
  have front : cs.dropWhile p = cs := by
    cases cs with
    | nil => rfl
    | cons c rest => simp [head c rfl]
  rw [trimBy, front, dropEnd_eq_rdropWhile, List.rdropWhile_eq_self_iff]
  intro nonempty
  simp [last _ (List.getLast?_eq_some_getLast nonempty)]

/-- A text that ends outside the class is trimmed at its start only. -/
theorem trimBy_concat (cs : List Char) {last : Char} (outside : p last = false) :
    trimBy p (cs ++ [last]) = (cs ++ [last]).dropWhile p := by
  have kept : (cs ++ [last]).dropWhile p = cs.dropWhile p ++ [last] := by
    rw [List.dropWhile_append]
    split <;> simp_all
  rw [trimBy, dropEnd, kept]
  simp [outside]

end Trim

/-! ## Sorted texts

`sort` keeps every text with its repetitions and puts them into the order of
code points.
-/

theorem le_eq_true_iff {a b : String} : le a b = true ↔ a ≤ b := by
  rw [le, Bool.not_eq_true', decide_eq_false_iff_not, Std.not_lt]

theorem le_trans {a b c : String} (first : le a b = true) (second : le b c = true) :
    le a c = true := by
  rw [le_eq_true_iff] at first second ⊢
  exact Std.le_trans first second

theorem le_total (a b : String) : (le a b || le b a) = true := by
  rw [Bool.or_eq_true, le_eq_true_iff, le_eq_true_iff]
  exact Std.le_total

theorem sort_perm (texts : List String) : (sort texts).Perm texts :=
  List.mergeSort_perm texts le

/-- The result of `sort` is in increasing order. -/
theorem pairwise_sort (texts : List String) :
    (sort texts).Pairwise fun a b => le a b = true := by
  apply List.pairwise_mergeSort
  · exact fun _ _ _ => le_trans
  · exact le_total

theorem mem_sort_iff {texts : List String} {s : String} : s ∈ sort texts ↔ s ∈ texts :=
  (sort_perm texts).mem_iff

/-- Texts without a repetition are in strictly increasing order. -/
theorem pairwise_lt_sort {texts : List String} (distinct : texts.Nodup) :
    (sort texts).Pairwise (· < ·) := by
  have different : (sort texts).Pairwise (· ≠ ·) := (sort_perm texts).nodup_iff.mpr distinct
  apply ((pairwise_sort texts).and different).imp
  rintro a b ⟨below, distinct⟩
  exact Std.lt_of_le_of_ne (le_eq_true_iff.mp below) distinct

/-- The order in which texts are given does not matter. -/
theorem sort_eq_of_perm {texts others : List String} (same : texts.Perm others) :
    sort texts = sort others := by
  apply List.Perm.eq_of_pairwise _ (pairwise_sort texts) (pairwise_sort others)
  · exact (sort_perm texts).trans (same.trans (sort_perm others).symm)
  · intro a b _ _ below above
    exact Std.le_antisymm (le_eq_true_iff.mp below) (le_eq_true_iff.mp above)

end ApiCompiler.Text
