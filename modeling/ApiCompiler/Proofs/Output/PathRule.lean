import ApiCompiler.Output.PathRule
import ApiCompiler.Proofs.Path.Clean

/-!
# Which paths are fit for output files

A path is fit if it is the current directory, or if it consists of names and does not begin
like a drive. Without a step up, cleaning a relative path only drops its empty parts and its
steps on the spot, so a path that is its own clean form has none of them.
-/

namespace ApiCompiler.Path

open Text

/-- A part that is no step on the spot. -/
def moves (part : String) : Bool := part != "" && part != "."

theorem moves_iff {part : String} : moves part = true ↔ part ≠ "" ∧ part ≠ "." := by
  simp [moves]

/-- Without a step up, every step of a relative path is dropped or put on top. -/
theorem foldl_step_of_not_mem_up {pieces : List String} (level : ".." ∉ pieces)
    (parts : List String) :
    pieces.foldl (step false) parts = (pieces.filter moves).reverse ++ parts := by
  induction pieces generalizing parts with
  | nil => rfl
  | cons piece rest ih =>
    rw [List.mem_cons, not_or] at level
    rw [List.foldl_cons, ih level.2]
    by_cases spot : piece = "" ∨ piece = "."
    · have dropped : moves piece = false := by
        rcases spot with rfl | rfl <;> rfl
      simp [step, spot, dropped]
    · rw [not_or] at spot
      have kept : moves piece = true := moves_iff.mpr spot
      simp [step, spot, Ne.symm level.1, kept]

theorem clean_of_not_mem_up {path : String} (relative : isRooted path = false)
    (level : ".." ∉ split '/' path) :
    clean path = if (split '/' path).filter moves = [] then "."
      else joinWith "/" ((split '/' path).filter moves) := by
  simp [clean, relative, foldl_step_of_not_mem_up level]

/-- A relative path without a step up is its own clean form exactly if it is the current
directory or nothing in it is dropped. -/
theorem clean_eq_self_iff {path : String} (relative : isRooted path = false)
    (level : ".." ∉ split '/' path) :
    clean path = path ↔ path = "." ∨ ∀ part ∈ split '/' path, part ≠ "" ∧ part ≠ "." := by
  rw [clean_of_not_mem_up relative level]
  constructor
  · intro same
    split at same
    · exact .inl same.symm
    · rename_i nonempty
      right
      have pieces : split '/' path = (split '/' path).filter moves := by
        rw [← split_joinWith_slash nonempty fun part mem =>
          not_mem_of_mem_split (List.mem_of_mem_filter mem), same]
      intro part mem
      rw [pieces] at mem
      exact moves_iff.mp (List.of_mem_filter mem)
  · rintro (rfl | kept)
    · decide
    · have all : (split '/' path).filter moves = split '/' path :=
        List.filter_eq_self.mpr fun part mem => moves_iff.mpr (kept part mem)
      have nonempty : split '/' path ≠ [] := by simp [split, splitAt_ne_nil]
      rw [all, if_neg nonempty, joinWith_split]

/-- A rooted path has an empty part in front. -/
theorem not_isRooted_of_names {path : String} (names : ∀ part ∈ split '/' path, part ≠ "") :
    isRooted path = false := by
  rw [Bool.eq_false_iff, ne_eq, isRooted_iff]
  rintro ⟨rest, chars⟩
  have cut : path.toList = [] ++ '/' :: rest := chars
  have pieces : split '/' path = split '/' "" ++ split '/' (String.ofList rest) :=
    split_eq_append cut
  exact names "" (by rw [pieces]; exact List.mem_append_left _ List.mem_cons_self) rfl

end ApiCompiler.Path

namespace ApiCompiler.OutputPath

open Text ApiCompiler.Path

theorem hasDrive_iff (path : String) :
    hasDrive path = true ↔
      ∃ letter rest, letter.isAlpha = true ∧ path.toList = letter :: ':' :: rest := by
  rw [hasDrive]
  constructor
  · intro drive
    split at drive
    · rename_i letter rest chars
      exact ⟨letter, rest, drive, chars⟩
    · exact nomatch drive
  · rintro ⟨letter, rest, alpha, chars⟩
    rw [chars]
    exact alpha

/-- A path is refused for one of five reasons. -/
theorem validate_eq_ok_iff {path : String} :
    validate path = .ok () ↔ path ≠ "" ∧ isRooted path = false ∧ hasDrive path = false ∧
      ".." ∉ split '/' path ∧ clean path = path := by
  rw [validate]
  by_cases empty : path = ""
  · simp [empty]
  · cases rooted : isRooted path with
    | true => simp [empty]
    | false =>
      cases drive : hasDrive path with
      | true => simp [empty]
      | false =>
        by_cases up : ".." ∈ split '/' path
        · simp [empty, up]
        · by_cases same : clean path = path
          · simp [empty, up, same]
          · simp [empty, up, same]

/-- A path is fit for an output file exactly if it is the current directory, or if all of its
parts are names and it does not begin with a letter and a colon. Whatever is refused is an
invalid path. -/
theorem validate_exact (path : String) :
    (validate path = .ok () ↔
      path = "." ∨
        (∀ part ∈ split '/' path, part ≠ "" ∧ part ≠ "." ∧ part ≠ "..") ∧
          ¬∃ letter rest, letter.isAlpha = true ∧ path.toList = letter :: ':' :: rest) ∧
      ∀ e, validate path = .error e → e.isA .invalidPath = true := by
  constructor
  · rw [validate_eq_ok_iff, ← hasDrive_iff, Bool.not_eq_true]
    constructor
    · rintro ⟨-, relative, drive, level, same⟩
      rcases (clean_eq_self_iff relative level).mp same with point | kept
      · exact .inl point
      · refine .inr ⟨fun part mem => ⟨(kept part mem).1, (kept part mem).2, ?_⟩, drive⟩
        rintro rfl
        exact level mem
    · rintro (rfl | ⟨names, drive⟩)
      · decide
      · have relative := not_isRooted_of_names fun part mem => (names part mem).1
        have level : ".." ∉ split '/' path := fun mem => (names ".." mem).2.2 rfl
        have same := (clean_eq_self_iff relative level).mpr
          (.inr fun part mem => ⟨(names part mem).1, (names part mem).2.1⟩)
        refine ⟨?_, relative, drive, level, same⟩
        rintro rfl
        exact (names "" List.mem_cons_self).1 rfl
  · intro e refused
    rw [validate] at refused
    split at refused
    · cases refused; rfl
    · split at refused
      · cases refused; rfl
      · split at refused
        · cases refused; rfl
        · split at refused
          · cases refused; rfl
          · exact nomatch refused

end ApiCompiler.OutputPath
