import ApiCompiler.Proofs.Writer.Lines
import ApiCompiler.Target.Go.Source
import ApiCompiler.Target.TypeScript.Generate
import Mathlib.Algebra.Ring.Nat

/-!
# Documentation in comments

Documentation is written into block comments of TypeScript and into line comments of Go, each line
of it behind a mark. No line of it breaks, so line comments hold all of it. It is not searched for
what ends a block comment: the comment has one such pair more than the documentation.
-/

namespace ApiCompiler

open Text

/-! ## Ends of block comments -/

namespace Text

/-- The number of pairs that end a block comment. -/
def closings : List Char → Nat
  | '*' :: '/' :: rest => closings rest + 1
  | _ :: rest => closings rest
  | [] => 0

variable {c : Char} {cs ds : List Char}

theorem closings_cons (other : c ≠ '*') (cs : List Char) : closings (c :: cs) = closings cs := by
  rw [closings]
  exact fun _ same _ => other same

/-- A pair does not go on behind a character other than a slash. -/
theorem closings_append_cons (other : c ≠ '/') (cs ds : List Char) :
    closings (cs ++ c :: ds) = closings cs + closings (c :: ds) := by
  fun_induction closings cs with
  | case1 rest ih =>
      rw [List.cons_append, List.cons_append, closings, ih]
      omega
  | case2 d rest noPair ih =>
      rw [List.cons_append, closings, ih]
      rintro after rfl split
      cases rest with
      | nil => exact other (List.cons.inj split).1
      | cons b rest =>
          obtain ⟨rfl, -⟩ := List.cons.inj split
          exact noPair rest rfl rfl
  | case3 => simp

theorem closings_append_of_plain (plain : ∀ c ∈ cs, c ≠ '*') (ds : List Char) :
    closings (cs ++ ds) = closings ds := by
  induction cs with
  | nil => rfl
  | cons c cs ih =>
      rw [List.forall_mem_cons] at plain
      rw [List.cons_append, closings_cons plain.1, ih plain.2]

theorem closings_eq_zero_iff : closings cs = 0 ↔ ¬ ['*', '/'] <:+: cs := by
  fun_induction closings cs with
  | case1 rest ih => simpa using (List.prefix_append ['*', '/'] rest).isInfix
  | case2 c rest noPair ih =>
      rw [ih, List.infix_cons_iff, not_or, iff_and_self]
      rintro - ⟨after, split⟩
      obtain ⟨rfl, rfl⟩ := List.cons.inj split
      exact noPair after rfl rfl
  | case3 => simp

theorem ne_of_isBlank (blank : isBlank c = true) : c ≠ '*' ∧ c ≠ '/' := by
  constructor
  all_goals
    rintro rfl
    exact absurd blank (by decide)

/-- No pair is divided by white space, so pairs are counted word by word. -/
theorem closings_eq_sum_words (s : String) :
    closings s.toList = ((words s).map fun word => closings word.toList).sum := by
  have runwise : closings s.toList = ((runs isBlank s.toList).map closings).sum := by
    refine runs_induction (motive := fun cs words => closings cs = (words.map closings).sum)
      ?nil ?run ?split s.toList
    case nil => rfl
    case run => simp
    case split =>
      intro before c after blank first second
      rw [closings_append_cons (ne_of_isBlank blank).2, closings_cons (ne_of_isBlank blank).1,
        first, second, List.map_append, List.sum_append]
  rw [runwise, words, List.map_map]
  simp [Function.comp_def]

theorem sum_closings_wrap (docs : String) (width : Int) :
    ((wrap docs width).map fun l => closings l.toList).sum = closings docs.toList := by
  have linewise : (wrap docs width).map (fun l => closings l.toList) =
      (wrap docs width).map fun l => ((words l).map fun word => closings word.toList).sum :=
    List.map_congr_left fun l _ => closings_eq_sum_words l
  rw [closings_eq_sum_words, ← words_wrap docs width, linewise, List.map_flatMap,
    List.flatMap_def, List.sum_flatten, List.map_map]
  rfl

end Text

/-! ## Lines behind a mark -/

/-- A line of documentation behind a mark. -/
def marked (mark l : String) : String := if l = "" then mark else mark ++ " " ++ l

/-- Lines of documentation behind a mark, at the indentation of a writer. -/
def markedLines (w : Writer) (mark : String) (filled : List String) : String :=
  String.join (filled.map fun l => w.indentation ++ marked mark l ++ "\n")

section Marked

variable {w : Writer} {docs mark l : String} {width : Int}

theorem indentedLine_marked (ends : Writer.EndsVisibly mark) (mem : l ∈ wrap docs width) :
    w.indentedLine (marked mark l) = w.indentation ++ marked mark l := by
  apply w.indentedLine_of_ends
  rw [marked]
  split
  · exact ends
  · rename_i visible
    obtain ⟨c, last, kept⟩ := ends_of_mem_wrap mem visible
    refine ⟨c, ?_, kept⟩
    rw [String.toList_append, Option.mem_def, List.getLast?_append, last]
    rfl

theorem closings_indentation_append (blank : w.IndentsWithBlanks) (cs : List Char) :
    closings (w.indentation.toList ++ cs) = closings cs :=
  closings_append_of_plain (fun _ mem => (ne_of_isBlank (blank.indentation mem).1).1) cs

/-- The pairs of marked lines are those of the lines, whatever follows. -/
theorem closings_markedLines (blank : w.IndentsWithBlanks) (filled : List String)
    (after : List Char) :
    closings ((markedLines w " *" filled).toList ++ after) =
      (filled.map fun l => closings l.toList).sum + closings after := by
  induction filled with
  | nil => simp [markedLines]
  | cons l filled ih =>
      have line : (markedLines w " *" (l :: filled)).toList ++ after = w.indentation.toList ++
          ((marked " *" l).toList ++ '\n' :: ((markedLines w " *" filled).toList ++ after)) := by
        simp [markedLines]
      have mark : closings (marked " *" l).toList = closings l.toList := by
        rw [marked]
        split
        · rename_i empty
          rw [empty]
          rfl
        · have text : (" *" ++ " " ++ l).toList = [' ', '*'] ++ ' ' :: l.toList := by simp
          rw [text, closings_append_cons (by decide), closings_cons (by decide)]
          exact Nat.zero_add _
      rw [line, closings_indentation_append blank, closings_append_cons (by decide),
        closings_cons (by decide), ih, mark, List.map_cons, List.sum_cons, Nat.add_assoc]

end Marked

/-! ## The two comments -/

section Comments

variable {w : Writer} {docs : String}

/-- The block comment of some lines. -/
def blockComment (w : Writer) (filled : List String) : String :=
  w.indentation ++ "/**\n" ++ markedLines w " *" filled ++ (w.indentation ++ " */\n")

theorem text_comment (visible : isBlankText docs = false) (length : Int) :
    (TypeScript.comment length docs w).text =
      w.text ++ blockComment w (wrap docs (length - w.indentWidth - 3)) := by
  have written : TypeScript.comment length docs w =
      ("/**" :: (wrap docs (length - w.indentWidth - 3)).map (" * " ++ ·) ++ [" */"]).foldl
        Writer.line w := by
    rw [TypeScript.comment, visible, if_neg Bool.false_ne_true, List.foldl_append, List.foldl_cons,
      List.foldl_nil, List.foldl_cons, List.foldl_map]
  have opening : w.indentedLine "/**" = w.indentation ++ "/**" :=
    w.indentedLine_of_ends (by decide)
  have closing : w.indentedLine " */" = w.indentation ++ " */" :=
    w.indentedLine_of_ends (by decide)
  have lines : ∀ l ∈ wrap docs (length - w.indentWidth - 3),
      w.indentedLine (" * " ++ l) ++ "\n" = w.indentation ++ marked " *" l ++ "\n" := by
    intro l mem
    by_cases empty : l = ""
    · -- the blank behind the star is stripped
      have mark : Writer.stripped (" * " ++ "") = " *" := by decide
      rw [empty, Writer.indentedLine, mark, if_neg (by decide)]
      rfl
    · have mark : marked " *" l = " * " ++ l := if_neg empty
      rw [← mark, indentedLine_marked (by decide) mem]
  rw [written, Writer.text_foldl_line, List.map_append, List.map_cons, List.map_map,
    List.map_singleton, opening, closing, blockComment, markedLines, ← List.map_congr_left lines]
  simp only [String.join_append, String.join_cons, String.append_assoc]
  rfl

theorem text_writeComment (visible : isBlankText docs = false) (level : Nat) :
    (Go.writeComment (Go.docLines level docs) w).text =
      w.text ++ markedLines w "//" (wrap docs (77 - level)) := by
  have written : Go.writeComment (Go.docLines level docs) w =
      ((wrap docs (77 - level)).map (marked "//")).foldl Writer.line w := by
    rw [Go.docLines, visible, if_neg Bool.false_ne_true, Go.writeComment, List.foldl_map]
    simp only [marked, beq_iff_eq]
    rfl
  have lines : ∀ l ∈ wrap docs (77 - level),
      w.indentedLine (marked "//" l) ++ "\n" = w.indentation ++ marked "//" l ++ "\n" :=
    fun l mem => by rw [indentedLine_marked (by decide) mem]
  rw [written, Writer.text_foldl_line, List.map_map, markedLines]
  exact congrArg (w.text ++ String.join ·) (List.map_congr_left lines)

/-- The block comment has one pair that ends it, and those of its lines. -/
theorem closings_blockComment (blank : w.IndentsWithBlanks) (filled : List String) :
    closings (blockComment w filled).toList =
      (filled.map fun l => closings l.toList).sum + 1 := by
  have text : (blockComment w filled).toList = w.indentation.toList ++ (['/', '*', '*'] ++ '\n' ::
      ((markedLines w " *" filled).toList ++ (w.indentation.toList ++ [' ', '*', '/', '\n']))) := by
    simp [blockComment]
  have mark : closings ['/', '*', '*'] = 0 := by decide
  have close : closings [' ', '*', '/', '\n'] = 1 := by decide
  rw [text, closings_indentation_append blank, closings_append_cons (by decide), mark,
    closings_cons (by decide), closings_markedLines blank, closings_indentation_append blank,
    close, Nat.zero_add]

theorem suffix_blockComment (filled : List String) :
    ['*', '/', '\n'] <:+ (blockComment w filled).toList :=
  ⟨(w.indentation ++ "/**\n" ++ markedLines w " *" filled ++ w.indentation ++ " ").toList,
    by simp [blockComment]⟩

theorem isLineBreak_of_mem_wrap {width : Int} {l : String} {c : Char} (mem : l ∈ wrap docs width)
    (inside : c ∈ l.toList) : isLineBreak c = false := by
  rw [Bool.eq_false_iff]
  intro breaks
  rw [eq_space_of_mem_wrap mem inside (isBlank_of_isLineBreak breaks)] at breaks
  exact absurd breaks (by decide)

/-- Documentation that is not blank, in the comments of both languages. All its words stand in the
block comment of TypeScript, which ends with the pair that ends it; it has this pair exactly once if
and only if the documentation does not have it. All its words stand in the line comments of Go, in
which no line breaks. -/
theorem comments_exact (blank : w.IndentsWithBlanks) (visible : isBlankText docs = false) :
    (∀ length, ∃ filled : List String, filled.flatMap words = words docs ∧
      (TypeScript.comment length docs w).text = w.text ++ blockComment w filled ∧
      ['*', '/', '\n'] <:+ (blockComment w filled).toList ∧
      closings (blockComment w filled).toList = closings docs.toList + 1 ∧
      (closings (blockComment w filled).toList = 1 ↔ ¬ ['*', '/'] <:+: docs.toList)) ∧
    ∀ level, ∃ filled : List String, filled.flatMap words = words docs ∧
      (Go.writeComment (Go.docLines level docs) w).text = w.text ++ markedLines w "//" filled ∧
      (∀ c ∈ w.indentation.toList, isBlank c = true ∧ isLineBreak c = false) ∧
      ∀ l ∈ filled, ∀ c ∈ l.toList, isLineBreak c = false := by
  constructor
  · intro length
    have count : closings (blockComment w (wrap docs (length - w.indentWidth - 3))).toList =
        closings docs.toList + 1 := by
      rw [closings_blockComment blank, sum_closings_wrap]
    refine ⟨_, words_wrap docs _, text_comment visible length, ?_, count, ?_⟩
    · exact suffix_blockComment _
    · rw [count, Nat.add_eq_right, closings_eq_zero_iff]
  · intro level
    exact ⟨_, words_wrap docs _, text_writeComment visible level, fun c => blank.indentation,
      fun l mem c => isLineBreak_of_mem_wrap mem⟩

end Comments

/-- Documentation with the parts of a pair and with a line break of another kind. -/
def globbing : String := "Matches /* and * /,\u2028even **."

theorem comments_exact_globbing :
    (Writer.new "  ").deeper.IndentsWithBlanks ∧ isBlankText globbing = false ∧
    (∃ filled : List String, filled.flatMap words = words globbing ∧
      (TypeScript.comment 100 globbing (Writer.new "  ").deeper).text =
        blockComment (Writer.new "  ").deeper filled ∧
      closings (blockComment (Writer.new "  ").deeper filled).toList = 1) ∧
    ∃ filled : List String, filled.flatMap words = words globbing ∧
      (Go.writeComment (Go.docLines 1 globbing) (Writer.new "  ").deeper).text =
        markedLines (Writer.new "  ").deeper "//" filled ∧
      ∀ l ∈ filled, ∀ c ∈ l.toList, isLineBreak c = false := by
  have blank : (Writer.new "  ").deeper.IndentsWithBlanks := by decide
  have visible : isBlankText globbing = false := by decide
  have absent : ¬ ['*', '/'] <:+: globbing.toList := closings_eq_zero_iff.mp (by decide)
  obtain ⟨block, line⟩ := comments_exact blank visible
  obtain ⟨filled, all, text, -, -, once⟩ := block 100
  obtain ⟨filled', all', text', -, lineless⟩ := line 1
  exact ⟨blank, visible, ⟨filled, all, text.trans String.empty_append, once.mpr absent⟩,
    filled', all', text'.trans String.empty_append, lineless⟩

/-- The pair stands in the documentation: the comment ends in the middle of it. -/
theorem comment_ends_early :
    (Writer.new "  ").IndentsWithBlanks ∧ isBlankText "a */ b" = false ∧
    (TypeScript.comment 100 "a */ b" (.new "  ")).text = "/**\n * a */ b\n */\n" ∧
    closings "/**\n * a */ b\n */\n".toList = 2 := by
  refine ⟨by decide, by decide, by decide +kernel, by decide⟩

end ApiCompiler
