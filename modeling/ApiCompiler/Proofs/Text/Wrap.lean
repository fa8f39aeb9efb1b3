import ApiCompiler.Proofs.Text.Words
import ApiCompiler.Text.Wrap
import Mathlib.Data.List.Chain
import Mathlib.Data.String.Basic

/-!
# Filled lines

Filling puts the words of a paragraph into lines, in order and with single spaces between them.
A line takes the next word as long as it stays within the width, so a line of several words is
within the width, and no line could have taken the first word of the next one. The paragraphs of
a text are filled one by one, with an empty line between them.
-/

namespace ApiCompiler.Text

/-! ## Lines of words -/

/-- Words with single spaces between them. -/
def spaced (words : List (List Char)) : List Char := [' '].intercalate words

/-- Lines, given by their words, that are filled to a width: every line has a word, a line of
several words is within the width, and no line could also take the first word of the next. -/
structure Filled (width : Int) (lines : List (List (List Char))) : Prop where
  ne_nil : ∀ line ∈ lines, line ≠ []
  fits : ∀ line ∈ lines, 2 ≤ line.length → (byteCount (spaced line) : Int) ≤ width
  full : lines.IsChain fun line next =>
    ∀ word ∈ next.head?, width < byteCount (spaced line) + 1 + byteCount word

section Lines

variable {width : Int} {line words : List (List Char)} {word : List Char}

theorem byteCount_append (cs ds : List Char) :
    byteCount (cs ++ ds) = byteCount cs + byteCount ds := by
  induction cs with
  | nil => simp [byteCount]
  | cons c cs ih =>
    simp only [byteCount, List.cons_append, List.foldr_cons] at ih ⊢
    omega

theorem utf8ByteSize_ofList (cs : List Char) : (String.ofList cs).utf8ByteSize = byteCount cs := by
  rw [String.utf8ByteSize_ofList]
  induction cs with
  | nil => rfl
  | cons c cs ih =>
    rw [String.utf8Len_cons, ih, byteCount, byteCount, List.foldr_cons, Nat.add_comm]

theorem spaced_concat (nonempty : line ≠ []) (word : List Char) :
    spaced (line ++ [word]) = spaced line ++ ' ' :: word :=
  intercalate_append_singleton [' '] nonempty word

theorem spaced_ne_nil (nonempty : line ≠ []) (each : ∀ word ∈ line, word ≠ []) :
    spaced line ≠ [] := by
  cases line with
  | nil => exact absurd rfl nonempty
  | cons first rest =>
    obtain ⟨c, cs, rfl⟩ := List.exists_cons_of_ne_nil (each first List.mem_cons_self)
    rw [spaced, List.intercalate_cons_cons_left]
    simp

/-- The lines that words are put into when a line is under construction: it takes some of the
words, and the others follow in filled lines. -/
theorem exists_fillLines (nonempty : line ≠ []) (each : ∀ word ∈ line ++ words, word ≠ [])
    (fits : 2 ≤ line.length → (byteCount (spaced line) : Int) ≤ width) :
    ∃ more rest, fillLines width (spaced line) words = ((line ++ more) :: rest).map spaced ∧
      ((line ++ more) :: rest).flatten = line ++ words ∧ Filled width ((line ++ more) :: rest) := by
  induction words generalizing line with
  | nil =>
    have visible : spaced line ≠ [] := spaced_ne_nil nonempty (by simpa using each)
    refine ⟨[], [], ?_, by simp, ?_⟩
    · rw [fillLines, if_neg (by simpa using visible)]
      simp
    · rw [List.append_nil]
      exact ⟨by simpa using nonempty, by simpa using fits, List.isChain_singleton _⟩
  | cons word words ih =>
    have visible : spaced line ≠ [] :=
      spaced_ne_nil nonempty fun w mem => each w (List.mem_append_left _ mem)
    have eachLater : ∀ w ∈ [word] ++ words, w ≠ [] := fun w mem =>
      each w (List.mem_append_right _ mem)
    rw [fillLines, if_neg (by simpa using visible)]
    by_cases full : ((byteCount (spaced line) + 1 + byteCount word : Nat) : Int) > width
    · -- the word begins a new line
      obtain ⟨more, rest, filled, all, next⟩ := ih (by simp) eachLater (by simp)
      rw [spaced, List.intercalate_singleton] at filled
      refine ⟨[], ([word] ++ more) :: rest, ?_, ?_, ?_⟩
      · rw [if_pos full, filled, List.append_nil]
        rfl
      · rw [List.append_nil, List.flatten_cons, all]
        rfl
      · rw [List.append_nil]
        refine ⟨List.forall_mem_cons.mpr ⟨nonempty, next.ne_nil⟩,
          List.forall_mem_cons.mpr ⟨fits, next.fits⟩,
          List.isChain_cons_cons.mpr ⟨?_, next.full⟩⟩
        intro w first
        cases first
        omega
    · -- the line takes the word
      have longer : spaced (line ++ [word]) = spaced line ++ ' ' :: word :=
        spaced_concat nonempty word
      have size : byteCount (spaced (line ++ [word])) =
          byteCount (spaced line) + 1 + byteCount word := by
        rw [longer, byteCount_append]
        change _ + (1 + byteCount word) = _
        omega
      have within : 2 ≤ (line ++ [word]).length →
          (byteCount (spaced (line ++ [word])) : Int) ≤ width := fun _ => by omega
      obtain ⟨more, rest, filled, all, next⟩ := ih (by simp) (by simpa using each) within
      rw [List.append_assoc] at filled all next
      refine ⟨[word] ++ more, rest, ?_, ?_, next⟩
      · rw [if_neg full, ← longer, filled]
      · rw [all, List.append_assoc]
        rfl

/-- The lines of a paragraph hold its words. -/
theorem exists_fillParagraph (width : Int) (paragraph : List Char) :
    ∃ lines, fillParagraph width paragraph = lines.map spaced ∧
      lines.flatten = runs isBlank paragraph ∧ Filled width lines := by
  rw [fillParagraph]
  have each : ∀ word ∈ runs isBlank paragraph, word ≠ [] := fun word mem =>
    (isRun_of_mem_runs mem).ne_nil
  cases found : runs isBlank paragraph with
  | nil => exact ⟨[], rfl, rfl, by simp, by simp, .nil⟩
  | cons word words =>
    rw [found] at each
    have single : 2 ≤ [word].length → (byteCount (spaced [word]) : Int) ≤ width := by simp
    obtain ⟨more, rest, filled, all, next⟩ := exists_fillLines (by simp) each single
    rw [spaced, List.intercalate_singleton] at filled
    exact ⟨_, filled, all, next⟩

theorem fillParagraphs_eq (width : Int) (pieces : List (List Char)) :
    fillParagraphs width pieces = [[]].intercalate (pieces.map (fillParagraph width)) := by
  fun_induction fillParagraphs width pieces with
  | case1 => rfl
  | case2 p => rw [List.map_singleton, List.intercalate_singleton]
  | case3 p rest nonempty ih =>
    have others : rest.map (fillParagraph width) ≠ [] := by simpa using nonempty
    rw [ih, List.map_cons, List.intercalate_cons_of_ne_nil others, List.append_assoc]
    rfl

end Lines

/-! ## Filled texts -/

/-- The paragraphs of a text without the white space at its ends. -/
def paragraphsOf (s : String) : List String :=
  (paragraphs (trimBy isBlank s.toList)).map String.ofList

/-- The lines of a paragraph that is filled to a width: they hold its words with single spaces
between them, a line of several words is within the width, and no line could also take the
first word of the next. -/
structure Fills (width : Int) (paragraph : String) (lines : List String) : Prop where
  words_eq : lines.flatMap words = words paragraph
  spaced : ∀ line ∈ lines, line ≠ "" ∧ line = joinWith " " (words line)
  fits : ∀ line ∈ lines, 2 ≤ (words line).length → (line.utf8ByteSize : Int) ≤ width
  full : lines.IsChain fun line next =>
    ∀ word ∈ (words next).head?, width < line.utf8ByteSize + 1 + word.utf8ByteSize

theorem ofList_spaced (line : List (List Char)) :
    String.ofList (spaced line) = joinWith " " (line.map String.ofList) := by
  apply String.toList_inj.mp
  rw [joinWith, String.toList_intercalate, String.toList_ofList, spaced, List.map_map]
  simp [Function.comp_def]

theorem words_ofList (cs : List Char) :
    words (String.ofList cs) = (runs isBlank cs).map String.ofList := by
  rw [words, String.toList_ofList]

/-- A line of words falls apart into its words. -/
theorem words_ofList_spaced {line : List (List Char)}
    (each : ∀ word ∈ line, IsRun isBlank word) :
    words (String.ofList (spaced line)) = line.map String.ofList := by
  have blank : ∀ c ∈ [' '], isBlank c = true := List.forall_mem_singleton.mpr rfl
  rw [words_ofList, spaced, runs_intercalate (by simp) blank, flatMap_runs each]

theorem fills_fillParagraph (width : Int) (paragraph : List Char) :
    Fills width (String.ofList paragraph)
      ((fillParagraph width paragraph).map String.ofList) := by
  obtain ⟨lines, filled, all, next⟩ := exists_fillParagraph width paragraph
  have each : ∀ line ∈ lines, ∀ word ∈ line, IsRun isBlank word := fun line mem word inside =>
    isRun_of_mem_runs (all ▸ List.mem_flatten.mpr ⟨line, mem, inside⟩)
  have wordsOf : ∀ line ∈ lines, words (String.ofList (spaced line)) = line.map String.ofList :=
    fun line mem => words_ofList_spaced (each line mem)
  rw [filled, List.map_map]
  refine ⟨?_, ?_, ?_, ?_⟩
  · rw [words_ofList, ← all, List.flatMap_map, List.map_flatten, List.flatMap_def]
    exact congrArg List.flatten (List.map_congr_left wordsOf)
  · rw [List.forall_mem_map]
    intro line mem
    refine ⟨?_, by rw [Function.comp_apply, wordsOf line mem, ofList_spaced]⟩
    have visible := spaced_ne_nil (next.ne_nil line mem) fun w inside =>
      (each line mem w inside).ne_nil
    simpa using visible
  · rw [List.forall_mem_map]
    intro line mem several
    rw [Function.comp_apply, wordsOf line mem, List.length_map] at several
    rw [Function.comp_apply, utf8ByteSize_ofList]
    exact next.fits line mem several
  · rw [List.isChain_map]
    refine next.full.imp_of_mem_imp fun line following mem memNext full => ?_
    intro word first
    rw [Function.comp_apply, wordsOf following memNext, List.head?_map] at first
    obtain ⟨cs, head, rfl⟩ := Option.map_eq_some_iff.mp first
    rw [Function.comp_apply, utf8ByteSize_ofList, utf8ByteSize_ofList]
    exact full cs head

/-- The lines of the paragraphs of a text. -/
def filledParagraphs (s : String) (width : Int) : List (List String) :=
  (paragraphs (trimBy isBlank s.toList)).map fun p => (fillParagraph width p).map String.ofList

theorem wrap_eq (s : String) (width : Int) :
    wrap s width = [""].intercalate (filledParagraphs s width) := by
  rw [wrap, fillParagraphs_eq, map_intercalate, List.map_map]
  rfl

theorem fills_filledParagraphs (s : String) (width : Int) :
    List.Forall₂ (Fills width) (paragraphsOf s) (filledParagraphs s width) := by
  rw [paragraphsOf, filledParagraphs, List.forall₂_map_left_iff, List.forall₂_map_right_iff,
    List.forall₂_same]
  exact fun p _ => fills_fillParagraph width p

/-- A line is a separator, or a line of a filled paragraph. -/
theorem eq_empty_or_fills {s : String} {width : Int} {line : String} (mem : line ∈ wrap s width) :
    line = "" ∨ ∃ paragraph lines, Fills width paragraph lines ∧ line ∈ lines := by
  rw [wrap_eq] at mem
  rcases mem_of_mem_intercalate mem with between | ⟨lines, inside, mem⟩
  · exact .inl (List.mem_singleton.mp between)
  · obtain ⟨p, -, rfl⟩ := List.mem_map.mp inside
    exact .inr ⟨_, _, fills_fillParagraph width p, mem⟩

theorem words_wrap (s : String) (width : Int) : (wrap s width).flatMap words = words s := by
  have each : ∀ p, ((fillParagraph width p).map String.ofList).flatMap words =
      (runs isBlank p).map String.ofList := fun p => by
    rw [(fills_fillParagraph width p).words_eq, words_ofList]
  have silent : [""].flatMap words = [] := rfl
  rw [wrap_eq, flatMap_intercalate silent, filledParagraphs, List.flatMap_map]
  simp only [each]
  rw [← List.map_flatMap, flatMap_runs_paragraphs (by decide), runs_trimBy, words]

theorem runs_joinWith_words (s : String) :
    runs isBlank (joinWith " " (words s)).toList = runs isBlank s.toList := by
  have blank : ∀ c ∈ [' '], isBlank c = true := List.forall_mem_singleton.mpr rfl
  have each : ∀ word ∈ runs isBlank s.toList, IsRun isBlank word := fun _ => isRun_of_mem_runs
  rw [words, ← ofList_spaced, String.toList_ofList, spaced, runs_intercalate (by simp) blank,
    flatMap_runs each]

/-- Words with single spaces between them have no other white space. -/
theorem eq_space_of_mem_joinWith_words {s : String} {c : Char}
    (mem : c ∈ (joinWith " " (words s)).toList) (blank : isBlank c = true) : c = ' ' := by
  rw [joinWith, String.toList_intercalate, words, List.map_map] at mem
  rcases mem_of_mem_intercalate mem with between | ⟨cs, inside, mem⟩
  · exact List.mem_singleton.mp between
  · obtain ⟨word, isWord, rfl⟩ := List.mem_map.mp inside
    rw [Function.comp_apply, String.toList_ofList] at mem
    rw [(isRun_of_mem_runs isWord).free c mem] at blank
    exact absurd blank Bool.false_ne_true

theorem not_mem_joinWith_words (s : String) : '\n' ∉ (joinWith " " (words s)).toList := by
  intro mem
  exact absurd (eq_space_of_mem_joinWith_words mem (by decide)) (by decide)

/-- Words with single spaces between them end with a word. -/
theorem getLast?_joinWith_words {s : String} {c : Char}
    (last : (joinWith " " (words s)).toList.getLast? = some c) : isBlank c = false := by
  rw [joinWith, String.toList_intercalate, words, List.map_map] at last
  cases final : ((runs isBlank s.toList).map (String.toList ∘ String.ofList)).getLast? with
  | none =>
      rw [List.getLast?_eq_none_iff.mp final, List.intercalate_nil] at last
      cases last
  | some word =>
      obtain ⟨front, joined, -⟩ := exists_intercalate_of_getLast? [' '] final
      obtain ⟨run, isWord, rfl⟩ := List.mem_map.mp (List.mem_of_getLast? final)
      have word := isRun_of_mem_runs isWord
      rw [Function.comp_apply, String.toList_ofList] at joined
      rw [show " ".toList = [' '] from rfl, joined,
        List.getLast?_append_of_ne_nil _ word.ne_nil] at last
      exact word.free c (List.mem_of_getLast? last)

/-- The lines of a paragraph that has a word. -/
theorem fillParagraph_ne_nil (width : Int) {p : List Char} (some : runs isBlank p ≠ []) :
    (fillParagraph width p).map String.ofList ≠ [] := by
  intro none
  have held := (fills_fillParagraph width p).words_eq
  rw [none, words_ofList] at held
  exact some (List.map_eq_nil_iff.mp held.symm)

theorem wrap_eq_nil_iff (s : String) (width : Int) :
    wrap s width = [] ↔ isBlankText s = true := by
  rw [isBlankText, List.all_eq_true]
  constructor
  · intro none
    have held := words_wrap s width
    rw [none, words] at held
    exact runs_eq_nil_iff.mp (List.map_eq_nil_iff.mp held.symm)
  · intro blank
    have empty : trimBy isBlank s.toList = [] := by
      rw [trimBy, List.dropWhile_eq_nil_iff.mpr blank]
      rfl
    rw [wrap, empty]
    rfl

/-- The first and the last line of a text are lines of paragraphs. -/
theorem ends_wrap_ne_empty (s : String) (width : Int) :
    (∀ line ∈ (wrap s width).head?, line ≠ "") ∧ ∀ line ∈ (wrap s width).getLast?, line ≠ "" := by
  by_cases blank : trimBy isBlank s.toList = []
  · have none : wrap s width = [] := by
      rw [wrap, blank]
      rfl
    simp [none]
  have ofBlock : ∀ p, ∀ line ∈ (fillParagraph width p).map String.ofList, line ≠ "" :=
    fun p line mem => ((fills_fillParagraph width p).spaced line mem).1
  have nonempty := paragraphs_ne_nil (trimBy isBlank s.toList)
  constructor
  · intro line head
    obtain ⟨c, first⟩ := Option.ne_none_iff_exists'.mp (mt List.head?_eq_none_iff.mp blank)
    obtain ⟨p, isFirst⟩ := Option.ne_none_iff_exists'.mp (mt List.head?_eq_none_iff.mp nonempty)
    have visible := fillParagraph_ne_nil width
      (runs_ne_nil_of_head? (by decide) ⟨c, first, head?_trimBy first⟩ isFirst)
    have block :
        (filledParagraphs s width).head? = some ((fillParagraph width p).map String.ofList) := by
      rw [filledParagraphs, List.head?_map, isFirst]
      rfl
    obtain ⟨back, text, -⟩ := exists_intercalate_of_head? [""] block
    rw [wrap_eq, text, List.head?_append_of_ne_nil _ visible] at head
    exact ofBlock p line (List.mem_of_mem_head? head)
  · intro line final
    obtain ⟨c, last⟩ := Option.ne_none_iff_exists'.mp (mt List.getLast?_eq_none_iff.mp blank)
    obtain ⟨p, isLast⟩ :=
      Option.ne_none_iff_exists'.mp (mt List.getLast?_eq_none_iff.mp nonempty)
    have visible := fillParagraph_ne_nil width
      (runs_ne_nil_of_getLast? (by decide) ⟨c, last, getLast?_trimBy last⟩ isLast)
    have block :
        (filledParagraphs s width).getLast? = some ((fillParagraph width p).map String.ofList) := by
      rw [filledParagraphs, List.getLast?_map, isLast]
      rfl
    obtain ⟨front, text, -⟩ := exists_intercalate_of_getLast? [""] block
    rw [wrap_eq, text, List.getLast?_append_of_ne_nil _ visible] at final
    exact ofBlock p line (List.mem_of_getLast? final)

/-! ## Texts that fill a single line -/

/-- A text that no blank line divides. -/
def IsOneParagraph (s : String) : Prop := ¬ ['\n', '\n'] <:+: (trim s).toList

theorem isOneParagraph_iff {s : String} : IsOneParagraph s ↔
    paragraphs (trimBy isBlank s.toList) = [trimBy isBlank s.toList] := by
  rw [IsOneParagraph, trim, String.toList_ofList, paragraphs_eq_singleton_iff]

/-- A line with the first word of the next one is a part of the joined words. -/
theorem utf8ByteSize_joinWith_append {first : List String} (nonempty : first ≠ [])
    (word : String) (others : List String) :
    (joinWith " " first).utf8ByteSize + 1 + word.utf8ByteSize ≤
      (joinWith " " (first ++ word :: others)).utf8ByteSize := by
  have size : " ".utf8ByteSize = 1 := by decide
  rw [joinWith, joinWith, String.intercalate_append_of_ne_nil nonempty (List.cons_ne_nil _ _),
    String.utf8ByteSize_append, String.utf8ByteSize_append, size]
  cases others with
  | nil => rw [String.intercalate_singleton]
  | cons second others =>
      rw [String.intercalate_cons_cons, String.utf8ByteSize_append, String.utf8ByteSize_append]
      omega

/-- A paragraph whose words fit on one line. -/
theorem Fills.eq_singleton {width : Int} {paragraph : String} {lines : List String}
    (fills : Fills width paragraph lines) (some : words paragraph ≠ [])
    (fits : ((joinWith " " (words paragraph)).utf8ByteSize : Int) ≤ width) :
    lines = [joinWith " " (words paragraph)] := by
  have held := fills.words_eq
  cases lines with
  | nil => exact absurd held.symm some
  | cons line rest =>
      cases rest with
      | nil =>
          rw [List.flatMap_cons, List.flatMap_nil, List.append_nil] at held
          rw [← held, ← (fills.spaced line List.mem_cons_self).2]
      | cons next rest =>
          -- the first line could have taken the first word of the next one
          have visible : ∀ l ∈ line :: next :: rest, words l ≠ [] := by
            intro l mem none
            obtain ⟨nonempty, text⟩ := fills.spaced l mem
            rw [none] at text
            exact nonempty text
          obtain ⟨word, more, first⟩ :=
            List.exists_cons_of_ne_nil (visible next (List.mem_cons_of_mem _ List.mem_cons_self))
          have full := (List.isChain_cons_cons.mp fills.full).1 word (by rw [first]; rfl)
          have size := utf8ByteSize_joinWith_append (visible line List.mem_cons_self) word
            (more ++ rest.flatMap words)
          rw [← (fills.spaced line List.mem_cons_self).2] at size
          rw [List.flatMap_cons, List.flatMap_cons, first, List.cons_append] at held
          rw [← held] at fits
          omega

/-- The text is a single line within the width if it is a single paragraph whose words fit. -/
theorem wrap_eq_singleton_iff {s line : String} {width : Int} (visible : isBlankText s = false)
    (fits : (line.utf8ByteSize : Int) ≤ width) :
    wrap s width = [line] ↔ IsOneParagraph s ∧ line = joinWith " " (words s) := by
  rw [isOneParagraph_iff]
  constructor
  · intro single
    have held := words_wrap s width
    rw [single, List.flatMap_cons, List.flatMap_nil, List.append_nil] at held
    have nonempty := (ends_wrap_ne_empty s width).1 line (by rw [single]; rfl)
    constructor
    · -- between two paragraphs there would be an empty line
      have joined := intercalate_paragraphs (trimBy isBlank s.toList)
      obtain ⟨p, rest, pieces⟩ :=
        List.exists_cons_of_ne_nil (paragraphs_ne_nil (trimBy isBlank s.toList))
      rw [pieces] at joined ⊢
      cases rest with
      | nil =>
          rw [List.intercalate_singleton] at joined
          rw [joined]
      | cons q rest =>
          rw [wrap_eq, filledParagraphs, pieces, List.map_cons, List.map_cons,
            List.intercalate_cons_cons] at single
          have empty : "" ∈ [line] := by
            rw [← single]
            simp
          exact absurd (List.mem_singleton.mp empty).symm nonempty
    · have found : line ∈ wrap s width := by simp [single]
      rcases eq_empty_or_fills found with empty | ⟨paragraph, lines, fills, mem⟩
      · exact absurd empty nonempty
      · rw [← held]
        exact (fills.spaced line mem).2
  · rintro ⟨one, rfl⟩
    have fills := fills_fillParagraph width (trimBy isBlank s.toList)
    have held : words (String.ofList (trimBy isBlank s.toList)) = words s := by
      rw [words_ofList, runs_trimBy, words]
    have some : words s ≠ [] := by
      rw [words, ne_eq, List.map_eq_nil_iff, runs_eq_nil_iff]
      simpa [isBlankText] using visible
    rw [wrap_eq, filledParagraphs, one, List.map_singleton, List.intercalate_singleton,
      fills.eq_singleton (by rwa [held]) (by rwa [held]), held]

/-- Filling a text to a width, of any sign. The paragraphs of the text are filled one by one, with
an empty line between them; so the lines hold the words of the text in order, every line is empty
or consists of words with single spaces between them, a line of several words is within the
width, and neither the first nor the last line is empty. There is no line exactly if the text is
blank. -/
theorem wrap_exact (s : String) (width : Int) :
    (∃ blocks, List.Forall₂ (Fills width) (paragraphsOf s) blocks ∧
      wrap s width = [""].intercalate blocks) ∧
    (wrap s width).flatMap words = words s ∧
    (∀ line ∈ wrap s width, line = "" ∨ line = joinWith " " (words line) ∧ '\n' ∉ line.toList) ∧
    (∀ line ∈ wrap s width, 2 ≤ (words line).length → (line.utf8ByteSize : Int) ≤ width) ∧
    (∀ line ∈ (wrap s width).head?, line ≠ "") ∧ (∀ line ∈ (wrap s width).getLast?, line ≠ "") ∧
    (wrap s width = [] ↔ isBlankText s = true) := by
  refine ⟨⟨_, fills_filledParagraphs s width, wrap_eq s width⟩, words_wrap s width, ?_, ?_,
    (ends_wrap_ne_empty s width).1, (ends_wrap_ne_empty s width).2, wrap_eq_nil_iff s width⟩
  · intro line mem
    rcases eq_empty_or_fills mem with empty | ⟨paragraph, lines, fills, mem⟩
    · exact .inl empty
    · have text := (fills.spaced line mem).2
      refine .inr ⟨text, ?_⟩
      rw [text]
      exact not_mem_joinWith_words line
  · intro line mem several
    rcases eq_empty_or_fills mem with rfl | ⟨paragraph, lines, fills, mem⟩
    · exact absurd several (by decide)
    · exact fills.fits line mem several

end ApiCompiler.Text
