import ApiCompiler.Disk
import ApiCompiler.Proofs.Text

/-!
# What a path leads to

Seen from an absolute working directory, a path leads to the place whose parts are left when its
steps up and its steps on the spot are carried out. A cleaned path leads to the same place, and the
directory of a path to the place one part before.
-/

namespace ApiCompiler.Path

open Text

/-- A part that is the name of something: no step on the spot or up, and without a slash. -/
structure IsName (part : String) : Prop where
  ne_empty : part ≠ ""
  ne_point : part ≠ "."
  ne_up : part ≠ ".."
  plain : '/' ∉ part.toList

theorem step_of_isName {rooted : Bool} {part : String} (name : IsName part)
    (parts : List String) : step rooted parts part = part :: parts := by
  simp [step, name.ne_empty, name.ne_point, name.ne_up]

/-- A step from the root is on the spot, up, or to a name. -/
theorem step_cases {place : List String} (names : ∀ q ∈ place, IsName q) {part : String}
    (plain : '/' ∉ part.toList) :
    step true place part = place ∨ step true place part = place.tail ∨
      IsName part ∧ step true place part = part :: place := by
  by_cases spot : part = "" ∨ part = "."
  · left
    simp [step, spot]
  rw [not_or] at spot
  by_cases up : part = ".."
  · right
    left
    cases place with
    | nil => simp [step, up]
    | cons p rest => simp [step, up, (names p List.mem_cons_self).ne_up]
  · right
    right
    have name : IsName part := ⟨spot.1, spot.2, up, plain⟩
    exact ⟨name, step_of_isName name place⟩

/-- The place that steps lead to from a place; the last part comes first. -/
def walk (place pieces : List String) : List String := pieces.foldl (step true) place

@[simp] theorem walk_nil (place : List String) : walk place [] = place := rfl

@[simp] theorem walk_cons (place : List String) (piece : String) (pieces : List String) :
    walk place (piece :: pieces) = walk (step true place piece) pieces := rfl

theorem walk_append (place first second : List String) :
    walk place (first ++ second) = walk (walk place first) second := by
  simp [walk]

theorem names_walk {place pieces : List String} (names : ∀ q ∈ place, IsName q)
    (plain : ∀ piece ∈ pieces, '/' ∉ piece.toList) : ∀ q ∈ walk place pieces, IsName q := by
  induction pieces generalizing place with
  | nil => exact names
  | cons piece rest ih =>
    rw [List.forall_mem_cons] at plain
    refine ih ?_ plain.2
    rcases step_cases names plain.1 with same | up | ⟨name, down⟩
    · rw [same]
      exact names
    · rw [up]
      intro q mem
      exact names q (List.mem_of_mem_tail mem)
    · rw [down, List.forall_mem_cons]
      exact ⟨name, names⟩

/-- Names lead down. -/
theorem walk_names {place pieces : List String} (names : ∀ q ∈ pieces, IsName q) :
    walk place pieces = pieces.reverse ++ place := by
  induction pieces generalizing place with
  | nil => rfl
  | cons piece rest ih =>
    rw [List.forall_mem_cons] at names
    rw [walk_cons, step_of_isName names.1, ih names.2]
    simp

/-! ### Cleaning -/

theorem isRooted_iff (path : String) :
    isRooted path = true ↔ ∃ rest, path.toList = '/' :: rest := by
  rw [isRooted, hasStart, List.isPrefixOf_iff_prefix]
  constructor
  · rintro ⟨rest, cut⟩
    exact ⟨rest, cut.symm⟩
  · rintro ⟨rest, cut⟩
    exact ⟨rest, cut.symm⟩

theorem clean_of_isRooted {path : String} (rooted : isRooted path = true) :
    clean path = Disk.ofParts (walk [] (split '/' path)) := by
  simp [clean, rooted, Disk.ofParts, walk]

/-- The text of a place leads to it. -/
theorem walk_ofParts {parts : List String} (names : ∀ q ∈ parts, IsName q) :
    walk [] (split '/' (Disk.ofParts parts)) = parts := by
  have root : Disk.ofParts parts = "" ++ "/" ++ joinWith "/" parts.reverse := by
    simp [Disk.ofParts]
  rw [root, split_slash, walk_append]
  have start : walk [] (split '/' "") = [] := by decide
  rw [start]
  rcases eq_or_ne parts [] with rfl | nonempty
  · decide
  · have names' : ∀ q ∈ parts.reverse, IsName q := fun q mem => names q (List.mem_reverse.mp mem)
    rw [split_joinWith_slash (by simpa using nonempty) fun q mem => (names' q mem).plain,
      walk_names names']
    simp

/-- A part of a path that may stand in a clean one: a step up or a name. -/
def IsKept (part : String) : Prop := part ≠ "" ∧ part ≠ "." ∧ '/' ∉ part.toList

/-- One more step of a relative path leads from any place to the same place, whether the parts
before it are cleaned or not. -/
theorem walk_step (place : List String) {parts : List String} (part : String)
    (kept : ∀ q ∈ parts, IsKept q) :
    walk place (step false parts part).reverse = step true (walk place parts.reverse) part := by
  by_cases spot : part = "" ∨ part = "."
  · simp [step, spot]
  rw [not_or] at spot
  by_cases up : part = ".."
  · subst up
    cases parts with
    | nil => rfl
    | cons p rest =>
      rcases List.forall_mem_cons.mp kept with ⟨⟨nonempty, notPoint, -⟩, -⟩
      by_cases isUp : p = ".."
      · simp [step, isUp, walk_append]
      · have down : ∀ place, step true place p = p :: place := fun place => by
          simp [step, nonempty, notPoint, isUp]
        have back : step false (p :: rest) ".." = rest := by simp [step, isUp]
        rw [back, List.reverse_cons, walk_append, walk_cons, walk_nil, down]
        simp [step, isUp]
  · have down : step false parts part = part :: parts := by simp [step, spot, up]
    rw [down, List.reverse_cons, walk_append]
    rfl

theorem kept_step {parts : List String} {part : String} (kept : ∀ q ∈ parts, IsKept q)
    (plain : '/' ∉ part.toList) : ∀ q ∈ step false parts part, IsKept q := by
  by_cases spot : part = "" ∨ part = "."
  · simpa [step, spot] using kept
  rw [not_or] at spot
  by_cases up : part = ".."
  · have isKept : IsKept ".." := by
      refine ⟨?_, ?_, ?_⟩ <;> decide
    subst up
    cases parts with
    | nil => simpa [step] using isKept
    | cons p rest =>
      by_cases isUp : p = ".."
      · subst isUp
        simpa [step, isKept] using kept
      · have back : step false (p :: rest) ".." = rest := by simp [step, isUp]
        rw [back]
        exact (List.forall_mem_cons.mp kept).2
  · have down : step false parts part = part :: parts := by simp [step, spot, up]
    rw [down, List.forall_mem_cons]
    exact ⟨⟨spot.1, spot.2, plain⟩, kept⟩

/-- Cleaning the steps of a relative path changes nothing about where they lead. -/
theorem walk_foldl_step (place : List String) (pieces : List String) {parts : List String}
    (kept : ∀ q ∈ parts, IsKept q) (plain : ∀ piece ∈ pieces, '/' ∉ piece.toList) :
    walk place (pieces.foldl (step false) parts).reverse =
        walk (walk place parts.reverse) pieces ∧
      ∀ q ∈ pieces.foldl (step false) parts, IsKept q := by
  induction pieces generalizing parts with
  | nil => exact ⟨rfl, kept⟩
  | cons piece rest ih =>
    rw [List.forall_mem_cons] at plain
    rcases ih (kept_step kept plain.1) plain.2 with ⟨led, kept'⟩
    rw [walk_step place piece kept] at led
    exact ⟨led, kept'⟩

theorem not_isRooted_joinWith {parts : List String} (nonempty : parts ≠ [])
    (kept : ∀ q ∈ parts, IsKept q) : isRooted (joinWith "/" parts) = false := by
  cases parts with
  | nil => exact absurd rfl nonempty
  | cons p rest =>
    rcases kept p List.mem_cons_self with ⟨ne_empty, -, plain⟩
    rw [Bool.eq_false_iff, ne_eq, isRooted_iff]
    rintro ⟨others, text⟩
    cases chars : p.toList with
    | nil => exact ne_empty (String.toList_eq_nil_iff.mp chars)
    | cons c cs =>
      have first : ∃ more, (joinWith "/" (p :: rest)).toList = c :: more := by
        cases rest with
        | nil => exact ⟨cs, by rw [joinWith, String.intercalate_singleton, chars]⟩
        | cons q rest =>
          rw [joinWith, String.intercalate_cons_cons]
          simp [chars]
      rcases first with ⟨more, text'⟩
      rw [text] at text'
      cases text'
      exact plain (chars ▸ List.mem_cons_self)

/-- A cleaned path is rooted as before. -/
theorem isRooted_clean (path : String) : isRooted (clean path) = isRooted path := by
  cases rooted : isRooted path with
  | true =>
    rw [clean_of_isRooted rooted, isRooted_iff]
    exact ⟨_, by rw [Disk.ofParts, String.toList_append]; rfl⟩
  | false =>
    rcases walk_foldl_step [] (split '/' path) (List.forall_mem_nil _)
      (fun piece mem => not_mem_of_mem_split mem) with ⟨-, kept⟩
    by_cases none : (split '/' path).foldl (step false) [] = []
    · have text : clean path = "." := by simp [clean, rooted, none]
      rw [text]
      decide
    · have text : clean path =
          joinWith "/" ((split '/' path).foldl (step false) []).reverse := by
        simp [clean, rooted, none]
      rw [text]
      exact not_isRooted_joinWith (by simpa using none)
        fun q mem => kept q (List.mem_reverse.mp mem)

/-- The place that a path leads to, seen from an absolute working directory. -/
def partsFrom (home path : String) : List String :=
  walk (if isRooted path then [] else walk [] (split '/' home)) (split '/' path)

theorem names_partsFrom (home path : String) : ∀ q ∈ partsFrom home path, IsName q := by
  have plain : ∀ s : String, ∀ piece ∈ split '/' s, '/' ∉ piece.toList :=
    fun s piece mem => not_mem_of_mem_split mem
  apply names_walk _ (plain path)
  split
  · simp
  · exact names_walk (by simp) (plain home)

/-- Cleaning changes nothing about where a path leads. -/
theorem partsFrom_clean (home path : String) :
    partsFrom home (clean path) = partsFrom home path := by
  rw [partsFrom, isRooted_clean, partsFrom]
  cases rooted : isRooted path with
  | true =>
    have names : ∀ q ∈ walk [] (split '/' path), IsName q :=
      names_walk (by simp) fun piece mem => not_mem_of_mem_split mem
    rw [clean_of_isRooted rooted]
    exact walk_ofParts names
  | false =>
    have plain : ∀ piece ∈ split '/' path, '/' ∉ piece.toList :=
      fun piece mem => not_mem_of_mem_split mem
    generalize walk [] (split '/' home) = place
    rcases walk_foldl_step place (split '/' path) (List.forall_mem_nil _) plain with ⟨led, kept⟩
    have cleaned : walk place (split '/' (clean path)) =
        walk place ((split '/' path).foldl (step false) []).reverse := by
      by_cases none : (split '/' path).foldl (step false) [] = []
      · have point : walk place (split '/' ".") = place := by
          rw [split_of_not_mem (by decide)]
          rfl
        simp [clean, rooted, none, point]
      · have text : clean path =
            joinWith "/" ((split '/' path).foldl (step false) []).reverse := by
          simp [clean, rooted, none]
        rw [text, split_joinWith_slash (by simpa using none)
          fun q mem => (kept q (List.mem_reverse.mp mem)).2.2]
    simp only [Bool.false_eq_true, if_false]
    rw [cleaned, led]
    rfl

/-- The absolute form of a path is the text of the place that it leads to. -/
theorem absolute_eq {home : String} (rooted : isRooted home = true) (path : String) :
    absolute home path = Disk.ofParts (partsFrom home path) := by
  rw [absolute, partsFrom]
  split
  · rename_i isRootedPath
    exact clean_of_isRooted isRootedPath
  have notEmpty : home ≠ "" := by
    rintro rfl
    cases rooted
  by_cases empty : path = ""
  · have spot : ∀ place, walk place (split '/' "") = place := fun place => by
      rw [split_of_not_mem (by decide)]
      rfl
    have text : join [home, ""] = clean home := by simp [join, notEmpty, joinWith]
    rw [empty, text, clean_of_isRooted rooted, spot]
  · have text : join [home, path] = clean (home ++ "/" ++ path) := by
      simp [join, notEmpty, empty, joinWith, String.intercalate_cons_cons, String.append_assoc]
    have isRootedWhole : isRooted (home ++ "/" ++ path) = true := by
      rcases (isRooted_iff home).mp rooted with ⟨rest, chars⟩
      exact (isRooted_iff _).mpr ⟨rest ++ '/' :: path.toList, by simp [chars]⟩
    rw [text, clean_of_isRooted isRootedWhole, split_slash, walk_append]

/-! ### Directories -/

/-- A path leads one part on from where its directory leads. -/
theorem partsFrom_directory (home path : String) :
    ∃ last : String, '/' ∉ last.toList ∧
      partsFrom home path = step true (partsFrom home (directory path)) last := by
  cases cut : cutLastAt '/' path.toList with
  | none =>
    have here : directory path = "." := by rw [directory, cut]
    rw [cutLastAt, Option.map_eq_none_iff, cutAt_eq_none_iff, List.mem_reverse] at cut
    have relative : isRooted path = false := by
      rw [Bool.eq_false_iff, ne_eq, isRooted_iff]
      rintro ⟨rest, chars⟩
      exact cut (chars ▸ List.mem_cons_self)
    have point : partsFrom home "." = walk [] (split '/' home) := by
      have isRelative : isRooted "." = false := by decide
      have one : split '/' "." = ["."] := split_of_not_mem (by decide)
      rw [partsFrom, isRelative, one]
      rfl
    refine ⟨path, cut, ?_⟩
    rw [here, point, partsFrom, relative, split_of_not_mem cut]
    rfl
  | some halves =>
    rcases halves with ⟨before, last⟩
    have above : directory path = clean (String.ofList (before ++ ['/'])) := by
      rw [directory, cut]
    rw [cutLastAt, Option.map_eq_some_iff] at cut
    rcases cut with ⟨⟨after, front⟩, found, same⟩
    cases same
    rcases cutAt_eq_some_iff.mp found with ⟨chars, plain⟩
    have chars' : path.toList = front.reverse ++ '/' :: after.reverse := by
      rw [← List.reverse_reverse path.toList, chars]
      simp
    have rootedAlike : isRooted (String.ofList (front.reverse ++ ['/'])) = isRooted path := by
      rw [Bool.eq_iff_iff, isRooted_iff, isRooted_iff, chars', String.toList_ofList]
      cases front.reverse <;> simp
    have plain' : '/' ∉ (String.ofList after.reverse).toList := by simpa using plain
    have pieces : split '/' path =
        split '/' (String.ofList front.reverse) ++ [String.ofList after.reverse] := by
      rw [split_eq_append chars', split_of_not_mem plain']
    have piecesAbove : split '/' (String.ofList (front.reverse ++ ['/'])) =
        split '/' (String.ofList front.reverse) ++ [""] := by
      have chars'' : (String.ofList (front.reverse ++ ['/'])).toList =
          front.reverse ++ '/' :: [] := String.toList_ofList
      rw [split_eq_append chars'']
      rfl
    refine ⟨String.ofList after.reverse, plain', ?_⟩
    rw [above, partsFrom_clean, partsFrom, partsFrom, rootedAlike, pieces, piecesAbove,
      walk_append, walk_append]
    rfl

/-! ### Texts of places -/

theorem hasStart_iff (start s : String) : hasStart start s = true ↔ start.toList <+: s.toList := by
  rw [hasStart, List.isPrefixOf_iff_prefix]

theorem joinWith_concat {parts : List String} (nonempty : parts ≠ []) (p : String) :
    joinWith "/" (parts ++ [p]) = joinWith "/" parts ++ "/" ++ p := by
  induction parts with
  | nil => exact absurd rfl nonempty
  | cons first rest ih =>
    cases rest with
    | nil => simp [joinWith, String.intercalate_cons_cons]
    | cons second rest =>
      have others := ih (by simp)
      rw [joinWith] at others ⊢
      rw [List.cons_append, List.cons_append, String.intercalate_cons_cons, ← List.cons_append,
        others, joinWith, joinWith, String.intercalate_cons_cons]
      simp [String.append_assoc]

/-- What the paths directly below a place begin with. -/
def under (place : List String) : String :=
  if place = [] then "/" else Disk.ofParts place ++ "/"

theorem ofParts_cons (p : String) (place : List String) :
    Disk.ofParts (p :: place) = under place ++ p := by
  rw [under]
  split
  · rename_i root
    rw [root]
    simp [Disk.ofParts, joinWith]
  · rename_i nonempty
    rw [Disk.ofParts, List.reverse_cons, joinWith_concat (by simpa using nonempty), Disk.ofParts]
    simp [String.append_assoc]

theorem ofParts_prefix_under (place : List String) :
    (Disk.ofParts place).toList <+: (under place).toList := by
  rw [under]
  split
  · rename_i root
    rw [root]
    simp [Disk.ofParts, joinWith]
  · rw [String.toList_append]
    exact List.prefix_append _ _

theorem under_prefix_under_cons (p : String) (place : List String) :
    (under place).toList <+: (under (p :: place)).toList := by
  refine List.IsPrefix.trans ?_ (ofParts_prefix_under (p :: place))
  rw [ofParts_cons, String.toList_append]
  exact List.prefix_append _ _

/-- A beginning that ends in a slash does not reach into a last part. -/
theorem prefix_of_prefix_append {start whole last : List Char} (plain : '/' ∉ last)
    (begins : start ++ ['/'] <+: whole ++ last) : start ++ ['/'] <+: whole := by
  rcases List.prefix_or_prefix_of_prefix begins (List.prefix_append whole last) with
    short | ⟨more, split⟩
  · exact short
  · rcases List.eq_nil_or_concat more with rfl | ⟨front, c, rfl⟩
    · exact ⟨[], by rw [← split]; simp⟩
    · rw [← split, List.prefix_append_right_inj] at begins
      rw [List.concat_eq_append, ← List.append_assoc] at split
      rcases List.append_inj' split rfl with ⟨-, same⟩
      cases same
      refine absurd (begins.subset ?_) plain
      simp

/-- Below a directory with a path, there is also every name beside the path. -/
theorem hasStart_sibling {directory last name : String} {place : List String}
    (names : ∀ q ∈ place, IsName q) (plain : '/' ∉ last.toList)
    (below : hasStart (directory ++ "/") (Disk.ofParts (step true place last)) = true) :
    hasStart (directory ++ "/") (Disk.ofParts (name :: place)) = true := by
  rw [hasStart_iff] at below ⊢
  have beside : (under place).toList <+: (Disk.ofParts (name :: place)).toList := by
    rw [ofParts_cons, String.toList_append]
    exact List.prefix_append _ _
  refine List.IsPrefix.trans ?_ beside
  rcases step_cases names plain with same | up | ⟨-, down⟩
  · rw [same] at below
    exact below.trans (ofParts_prefix_under place)
  · rw [up] at below
    refine below.trans ((ofParts_prefix_under place.tail).trans ?_)
    cases place with
    | nil => exact List.prefix_rfl
    | cons p rest => exact under_prefix_under_cons p rest
  · rw [down, ofParts_cons, String.toList_append, String.toList_append] at below
    rw [String.toList_append]
    exact prefix_of_prefix_append plain below

end ApiCompiler.Path
