import ApiCompiler.Writer.Desk
import Mathlib.Data.List.Basic

/-!
# Writers apart from each other

What one writer writes shows in another only inside a section, so two writers are compared with
their sections emptied. An operation is `Own` if it does its work on such a writer alike and leaves
the sections that exist as they are. A change at one place then stays out of every other place.
-/

namespace ApiCompiler

open Text

namespace Chunk

/-- A chunk, emptied if it is a section. -/
def hollow : Chunk → Chunk
  | text content => text content
  | nested _ _ => nested 0 []

@[simp] theorem hollow_text (content : String) : (text content).hollow = text content := rfl

@[simp] theorem hollow_nested (level : Nat) (chunks : List Chunk) :
    (nested level chunks).hollow = nested 0 [] := rfl

@[simp] theorem hollow_hollow (c : Chunk) : c.hollow.hollow = c.hollow := by
  cases c <;> rfl

end Chunk

namespace Writer

/-- A writer with its sections emptied. -/
def hollow (w : Writer) : Writer := { w with chunks := w.chunks.map Chunk.hollow }

@[simp] theorem indent_hollow (w : Writer) : w.hollow.indent = w.indent := rfl

@[simp] theorem level_hollow (w : Writer) : w.hollow.level = w.level := rfl

@[simp] theorem chunks_hollow (w : Writer) : w.hollow.chunks = w.chunks.map Chunk.hollow := rfl

@[simp] theorem hollow_hollow (w : Writer) : w.hollow.hollow = w.hollow := by
  simp [hollow, Function.comp_def]

@[simp] theorem nextSection_hollow (w : Writer) : w.hollow.nextSection = w.nextSection := by
  simp [nextSection]

/-- An operation does the same whatever stands in the sections, and leaves them as they are. -/
structure Own (change : Writer → Writer) : Prop where
  indent (w : Writer) : (change w).indent = w.indent
  hollow (w : Writer) : (change w).hollow = (change w.hollow).hollow
  keeps (w : Writer) (i level : Nat) (chunks : List Chunk) :
    w.chunks[i]? = some (.nested level chunks) →
      (change w).chunks[i]? = some (.nested level chunks)

namespace Own

variable {change other : Writer → Writer}

theorem comp (first : Own change) (second : Own other) : Own (fun w => other (change w)) where
  indent w := (second.indent _).trans (first.indent w)
  hollow w := by
    rw [second.hollow (change w), first.hollow w, ← second.hollow]
  keeps w i level chunks found := second.keeps _ _ _ _ (first.keeps _ _ _ _ found)

theorem foldl {α : Type} (write : Writer → α → Writer) (own : ∀ a, Own (write · a)) :
    (items : List α) → Own (items.foldl write ·)
  | [] => ⟨fun _ => rfl, fun w => w.hollow_hollow.symm, fun _ _ _ _ found => found⟩
  | a :: rest => (own a).comp (foldl write own rest)

/-- Writers that differ in their sections only do so behind the operation. -/
theorem congr (own : Own change) {w v : Writer} (alike : w.hollow = v.hollow) :
    (change w).hollow = (change v).hollow := by
  rw [own.hollow w, alike, ← own.hollow v]

end Own

/-! ### The operations -/

theorem map_hollow_appendTo (chunks : List Chunk) (s : String) :
    (appendTo chunks s).map Chunk.hollow = appendTo (chunks.map Chunk.hollow) s := by
  induction chunks, s using appendTo.induct with
  | case1 s => rfl
  | case2 content s => rfl
  | case3 c rest s notLast ih =>
    cases c <;> cases rest <;> simp_all [appendTo]

theorem getElem?_appendTo_of_nested {chunks inner : List Chunk} {i level : Nat} (s : String)
    (found : chunks[i]? = some (.nested level inner)) :
    (appendTo chunks s)[i]? = some (.nested level inner) := by
  induction chunks, s using appendTo.induct generalizing i with
  | case1 s => simp at found
  | case2 content s => cases i <;> simp at found
  | case3 c rest s notLast ih =>
    cases i <;> simp_all [appendTo]

theorem own_append (s : String) : Own (·.append s) where
  indent _ := rfl
  hollow w := by simp [append, Writer.hollow, map_hollow_appendTo, Function.comp_def]
  keeps _ _ _ _ found := getElem?_appendTo_of_nested s found

/-- The text of a line at a level of indentation. -/
def lineText (indent : String) (level : Nat) (s : String) : String :=
  if stripped s = "" then "\n" else repeated level indent ++ stripped s ++ "\n"

theorem line_eq (w : Writer) (s : String) :
    w.line s = w.append (lineText w.indent w.level s) := by
  simp only [line, lineText, beq_iff_eq]
  split <;> rfl

theorem own_line (s : String) : Own (·.line s) where
  indent w := by rw [line_eq]; rfl
  hollow w := by
    rw [line_eq, line_eq]
    exact (own_append _).hollow w
  keeps w i level chunks found := by
    rw [line_eq]
    exact (own_append _).keeps w i level chunks found

theorem own_lines (s : String) : Own (·.lines s) := Own.foldl line own_line _

theorem own_blank (count : Nat) : Own (·.blank count) := own_append _

theorem own_deeper : Own deeper where
  indent _ := rfl
  hollow w := by simp [deeper, hollow, Function.comp_def]
  keeps _ _ _ _ found := found

theorem own_shallower : Own shallower where
  indent _ := rfl
  hollow w := by simp [shallower, hollow, Function.comp_def]
  keeps _ _ _ _ found := found

theorem own_addSection : Own addSection where
  indent _ := rfl
  hollow w := by simp [addSection, hollow, Function.comp_def]
  keeps w i level chunks found := by
    rw [addSection]
    exact List.getElem?_append_left (List.getElem?_eq_some_iff.mp found).1 ▸ found

/-! ### Places -/

/-- A section by its position. -/
theorem at?_cons_eq_some_iff {w v : Writer} {i : Nat} {path : Path} :
    w.at? (i :: path) = some v ↔
      ∃ level chunks, w.chunks[i]? = some (.nested level chunks) ∧
        at? ⟨w.indent, level, chunks⟩ path = some v := by
  rw [at?]
  split
  · simp_all
  · simp_all

theorem at?_append {w v : Writer} {path : Path} (found : w.at? path = some v) (rest : Path) :
    w.at? (path ++ rest) = v.at? rest := by
  induction path generalizing w with
  | nil =>
    cases found
    rfl
  | cons i path ih =>
    rcases at?_cons_eq_some_iff.mp found with ⟨level, chunks, here, inside⟩
    rw [List.cons_append, at?, here]
    exact ih inside

/-- A change inside a section. -/
theorem modifyAt_cons {w : Writer} (change : Writer → Writer) {i level : Nat} (path : Path)
    {chunks : List Chunk} (here : w.chunks[i]? = some (.nested level chunks)) :
    w.modifyAt change (i :: path) =
      { w with
        chunks := w.chunks.set i (.nested
          (modifyAt ⟨w.indent, level, chunks⟩ change path).level
          (modifyAt ⟨w.indent, level, chunks⟩ change path).chunks) } := by
  rw [modifyAt, here]

theorem indent_modifyAt {change : Writer → Writer} (own : Own change) (w : Writer) (path : Path) :
    (w.modifyAt change path).indent = w.indent := by
  cases path with
  | nil => exact own.indent w
  | cons i path =>
    rw [modifyAt]
    split <;> rfl

theorem repack_modifyAt {change : Writer → Writer} (own : Own change) (indent : String)
    (level : Nat) (chunks : List Chunk) (path : Path) :
    (⟨indent, (modifyAt ⟨indent, level, chunks⟩ change path).level,
      (modifyAt ⟨indent, level, chunks⟩ change path).chunks⟩ : Writer) =
      modifyAt ⟨indent, level, chunks⟩ change path := by
  have same := indent_modifyAt own ⟨indent, level, chunks⟩ path
  exact congrArg (fun unit => (⟨unit, _, _⟩ : Writer)) same.symm

/-- A change shows at its own place. -/
theorem at?_modifyAt_self {change : Writer → Writer} (own : Own change) {w v : Writer}
    {path : Path} (found : w.at? path = some v) :
    (w.modifyAt change path).at? path = some (change v) := by
  induction path generalizing w with
  | nil =>
    cases found
    rfl
  | cons i path ih =>
    rcases at?_cons_eq_some_iff.mp found with ⟨level, chunks, here, inside⟩
    rcases List.getElem?_eq_some_iff.mp here with ⟨inBounds, -⟩
    rw [modifyAt_cons change path here, at?_cons_eq_some_iff]
    refine ⟨_, _, List.getElem?_set_self inBounds, ?_⟩
    rw [repack_modifyAt own]
    exact ih inside

/-- A change shows at another place at most inside a section. -/
theorem at?_modifyAt_of_ne {change : Writer → Writer} (own : Own change) {w v : Writer}
    {path other : Path} (apart : path ≠ other) (found : w.at? other = some v) :
    ∃ v', (w.modifyAt change path).at? other = some v' ∧ v'.hollow = v.hollow := by
  induction path generalizing w other with
  | nil =>
    cases other with
    | nil => exact absurd rfl apart
    | cons j other =>
      rcases at?_cons_eq_some_iff.mp found with ⟨level, chunks, here, inside⟩
      refine ⟨v, at?_cons_eq_some_iff.mpr ⟨level, chunks, own.keeps _ _ _ _ here, ?_⟩, rfl⟩
      rw [modifyAt, own.indent]
      exact inside
  | cons i path ih =>
    rw [modifyAt]
    split
    case h_2 => exact ⟨v, found, rfl⟩
    case h_1 level chunks here =>
      rcases List.getElem?_eq_some_iff.mp here with ⟨inBounds, atPlace⟩
      cases other with
      | nil =>
        cases found
        refine ⟨_, rfl, ?_⟩
        have same : (v.chunks.map Chunk.hollow).set i (.nested 0 []) =
            v.chunks.map Chunk.hollow := by
          apply List.ext_getElem?
          intro k
          rcases eq_or_ne i k with rfl | ne
          · simp [inBounds, atPlace]
          · simp [List.getElem?_set_ne ne]
        simp [hollow, List.map_set, same]
      | cons j other =>
        rcases at?_cons_eq_some_iff.mp found with ⟨level', chunks', there, inside⟩
        by_cases same : i = j
        · subst same
          rw [here] at there
          cases there
          rcases ih (by simpa using apart) inside with ⟨v', found', alike⟩
          refine ⟨v', at?_cons_eq_some_iff.mpr ⟨_, _, List.getElem?_set_self inBounds, ?_⟩, alike⟩
          rw [repack_modifyAt own]
          exact found'
        · refine ⟨v, at?_cons_eq_some_iff.mpr ⟨level', chunks', ?_, inside⟩, rfl⟩
          rw [List.getElem?_set_ne same, there]

/-- Nothing stands behind the last chunk. -/
theorem at?_nextSection {w v : Writer} {path : Path} (found : w.at? path = some v) :
    w.at? (path ++ [v.nextSection]) = none := by
  rw [at?_append found]
  simp [at?, nextSection]

/-- A new section is empty and has the level of its writer. -/
theorem at?_modifyAt_addSection {w v : Writer} {path : Path} (found : w.at? path = some v) :
    (w.modifyAt addSection path).at? (path ++ [v.nextSection]) =
      some ⟨v.indent, v.level, []⟩ := by
  rw [at?_append (at?_modifyAt_self own_addSection found)]
  simp [at?, addSection, nextSection]

end Writer

end ApiCompiler
