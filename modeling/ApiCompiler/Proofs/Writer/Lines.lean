import ApiCompiler.Proofs.Text.Wrap
import ApiCompiler.Proofs.Writer.Places

/-!
# Written lines

What the lines that are given to a writer add to its text, and what is known of a line that was
filled: it has no white space but single spaces, and nothing is stripped from its end.
-/

namespace ApiCompiler

open Text

/-! ## Line breaks -/

/-- A character that ends a line in some reading of Unicode. -/
def Text.isLineBreak (c : Char) : Bool :=
  ['\n', '\x0b', '\x0c', '\r', '\u0085', '\u2028', '\u2029'].contains c

theorem Text.isBlank_of_isLineBreak {c : Char} (breaks : isLineBreak c = true) :
    isBlank c = true := by
  have each : ['\n', '\x0b', '\x0c', '\r', '\u0085', '\u2028', '\u2029'].all isBlank = true := by
    decide
  exact List.all_eq_true.mp each c (List.contains_iff_mem.mp breaks)

theorem Text.isBlank_of_isTrailing {c : Char} (trails : Writer.isTrailing c = true) :
    isBlank c = true := by
  simp only [Writer.isTrailing, Bool.or_eq_true, beq_iff_eq] at trails
  rcases trails with ((rfl | rfl) | rfl) | rfl
  all_goals decide

namespace Writer

/-! ## The text of a writer -/

theorem renderAll_appendTo (chunks : List Chunk) (s : String) :
    Chunk.renderAll (appendTo chunks s) = Chunk.renderAll chunks ++ s := by
  induction chunks, s using appendTo.induct with
  | case1 s => simp [appendTo, Chunk.renderAll, Chunk.render]
  | case2 content s => simp [appendTo, Chunk.renderAll, Chunk.render]
  | case3 c rest s notLast ih =>
      rw [appendTo.eq_3 s c rest notLast, Chunk.renderAll, Chunk.renderAll, ih,
        String.append_assoc]

@[simp]
theorem text_append (w : Writer) (s : String) : (w.append s).text = w.text ++ s :=
  renderAll_appendTo w.chunks s

/-- The text in front of a line. -/
def indentation (w : Writer) : String := repeated w.level w.indent

/-- A line at the indentation of a writer, without the line break behind it. -/
def indentedLine (w : Writer) (s : String) : String :=
  if stripped s = "" then "" else w.indentation ++ stripped s

theorem text_line (w : Writer) (s : String) :
    (w.line s).text = w.text ++ (w.indentedLine s ++ "\n") := by
  rw [line_eq, text_append, lineText, indentedLine]
  split <;> rfl

theorem indentedLine_line (w : Writer) (s : String) :
    (w.line s).indentedLine = w.indentedLine := by
  rw [line_eq]
  rfl

/-- Lines one after the other. -/
theorem text_foldl_line (w : Writer) (items : List String) :
    (items.foldl line w).text =
      w.text ++ String.join (items.map fun s => w.indentedLine s ++ "\n") := by
  induction items generalizing w with
  | nil => simp
  | cons s rest ih =>
      rw [List.foldl_cons, ih, text_line, indentedLine_line, List.map_cons, String.join_cons,
        String.append_assoc]

/-- A writer has the text of another and more behind it. -/
def Extends (w v : Writer) : Prop := ∃ more, v.text = w.text ++ more

theorem Extends.refl (w : Writer) : w.Extends w := ⟨"", by simp⟩

theorem Extends.trans {w v u : Writer} (first : w.Extends v) (second : v.Extends u) :
    w.Extends u := by
  obtain ⟨more, text⟩ := first
  obtain ⟨others, later⟩ := second
  exact ⟨more ++ others, by rw [later, text, String.append_assoc]⟩

theorem extends_foldl_line (w : Writer) (items : List String) : w.Extends (items.foldl line w) :=
  ⟨_, text_foldl_line w items⟩

theorem extends_line (w : Writer) (s : String) : w.Extends (w.line s) := ⟨_, text_line w s⟩

theorem Extends.indented {w : Writer} {inner : Writer → Writer}
    (later : w.deeper.Extends (inner w.deeper)) : w.Extends (w.indented inner) := later

/-! ## Indentation by white space -/

/-- A writer that indents with white space inside a line. -/
def IndentsWithBlanks (w : Writer) : Prop :=
  ∀ c ∈ w.indent.toList, isBlank c = true ∧ isLineBreak c = false

instance (w : Writer) : Decidable w.IndentsWithBlanks := List.decidableBAll _ _

theorem mem_indentation {w : Writer} {c : Char} (mem : c ∈ w.indentation.toList) :
    c ∈ w.indent.toList := by
  rw [indentation, repeated, String.toList_join, List.mem_flatMap] at mem
  rcases mem with ⟨s, isCopy, mem⟩
  rwa [List.eq_of_mem_replicate isCopy] at mem

theorem IndentsWithBlanks.indentation {w : Writer} (blank : w.IndentsWithBlanks) {c : Char}
    (mem : c ∈ w.indentation.toList) : isBlank c = true ∧ isLineBreak c = false :=
  blank c (mem_indentation mem)

theorem utf8ByteSize_indentation (w : Writer) : w.indentation.utf8ByteSize = w.indentWidth := by
  rw [indentation, repeated, indentWidth, ← utf8ByteSize_ofList, String.ofList_toList]
  induction w.level with
  | zero => simp
  | succ n ih =>
      rw [List.replicate_succ, String.join_cons, String.utf8ByteSize_append, ih, Nat.succ_mul,
        Nat.add_comm]

/-! ## Lines that are not stripped -/

/-- A text whose last character is not stripped. -/
def EndsVisibly (s : String) : Prop := ∃ c ∈ s.toList.getLast?, isTrailing c = false

instance (s : String) : Decidable (EndsVisibly s) := s.toList.getLast?.decidableExistsMem

theorem stripped_of_ends {s : String} (ends : EndsVisibly s) : stripped s = s := by
  obtain ⟨c, last, kept⟩ := ends
  rw [Option.mem_def, ← List.head?_reverse] at last
  obtain ⟨rest, split⟩ := List.head?_eq_some_iff.mp last
  rw [stripped, split, List.dropWhile_cons_of_neg (by simp [kept]), ← split,
    List.reverse_reverse, String.ofList_toList]

theorem indentedLine_of_ends (w : Writer) {s : String} (ends : EndsVisibly s) :
    w.indentedLine s = w.indentation ++ s := by
  have visible : s ≠ "" := by
    rintro rfl
    rcases ends with ⟨c, last, -⟩
    exact nomatch last
  rw [indentedLine, stripped_of_ends ends, if_neg visible]

end Writer

/-! ## Filled lines -/

namespace Text

variable {s line : String} {width : Int} {c : Char}

theorem eq_joinWith_words_of_mem_wrap (mem : line ∈ wrap s width) :
    line = joinWith " " (words line) := by
  rcases eq_empty_or_fills mem with rfl | ⟨paragraph, lines, fills, mem⟩
  · rfl
  · exact (fills.spaced line mem).2

theorem eq_space_of_mem_wrap (mem : line ∈ wrap s width) (inside : c ∈ line.toList)
    (blank : isBlank c = true) : c = ' ' := by
  rw [eq_joinWith_words_of_mem_wrap mem] at inside
  exact eq_space_of_mem_joinWith_words inside blank

/-- Nothing is stripped from the end of a filled line. -/
theorem ends_of_mem_wrap (mem : line ∈ wrap s width) (visible : line ≠ "") :
    Writer.EndsVisibly line := by
  obtain ⟨c, last⟩ := Option.ne_none_iff_exists'.mp (mt List.getLast?_eq_none_iff.mp
    (mt String.toList_eq_nil_iff.mp visible))
  refine ⟨c, last, ?_⟩
  rw [eq_joinWith_words_of_mem_wrap mem] at last
  have outside := getLast?_joinWith_words last
  rw [Bool.eq_false_iff]
  intro trails
  rw [isBlank_of_isTrailing trails] at outside
  exact absurd outside.symm Bool.false_ne_true

end Text

end ApiCompiler
