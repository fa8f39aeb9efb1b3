import ApiCompiler.Proofs.Python.Docstring

/-!
# The width of docstrings

Filled lines of documentation are within the width behind their indentation, but for a word that is
too long by itself. Short documentation may need one byte more than there is: it leaves three bytes
of the width, and its delimiters need four.
-/

namespace ApiCompiler.Python

open Text

/-- A line that holds a single word of the documentation, too long for the width by itself. -/
def IsOverlong (w : Writer) (docs line : String) : Prop :=
  ∃ word ∈ words docs, line = w.indentation ++ word ∧
    maxWidth < w.indentWidth + word.utf8ByteSize

/-- A line within the width, or with a word that does not fit in any line. -/
def KeepsWidth (w : Writer) (docs line : String) : Prop :=
  (line.utf8ByteSize : Int) ≤ maxWidth ∨ IsOverlong w docs line

section Plain

variable {w : Writer} {docs l : String} {cs : List Char}

theorem escapeQuotes_of_not_mem (plain : '"' ∉ cs) : escapeQuotes cs = cs := by
  induction cs with
  | nil => rfl
  | cons c cs ih =>
      rw [List.mem_cons, not_or] at plain
      rw [escapeQuotes_other (Ne.symm plain.1), ih plain.2]

theorem escapeTripleQuotes_of_not_mem (plain : '"' ∉ cs) : escapeTripleQuotes cs = cs := by
  fun_induction escapeTripleQuotes cs with
  | case1 => simp at plain
  | case2 c rest _ ih => rw [ih fun mem => plain (List.mem_cons_of_mem c mem)]
  | case3 => rfl

theorem mem_of_mem_words {word : String} {c : Char} (isWord : word ∈ words docs)
    (mem : c ∈ word.toList) : c ∈ docs.toList := by
  obtain ⟨run, isRun, rfl⟩ := List.mem_map.mp isWord
  rw [String.toList_ofList] at mem
  have kept : c ∈ (runs isBlank docs.toList).flatten := List.mem_flatten.mpr ⟨run, isRun, mem⟩
  rw [flatten_runs] at kept
  exact List.mem_of_mem_filter kept

theorem mem_words_of_mem_wrap {width : Int} {word : String} (mem : l ∈ wrap docs width)
    (inside : word ∈ words l) : word ∈ words docs := by
  rw [← words_wrap docs width]
  exact List.mem_flatMap.mpr ⟨l, mem, inside⟩

theorem quote_not_mem_joinWith {ws : List String} (plain : '"' ∉ docs.toList)
    (each : ∀ word ∈ ws, word ∈ words docs) : '"' ∉ (joinWith " " ws).toList := by
  rw [joinWith, String.toList_intercalate]
  intro mem
  rcases mem_of_mem_intercalate mem with between | ⟨word, inside, mem⟩
  · exact absurd between (by decide)
  · obtain ⟨word, isWord, rfl⟩ := List.mem_map.mp inside
    exact plain (mem_of_mem_words (each word isWord) mem)

/-- A line with a quote behind its indentation holds no word of documentation without quotes. -/
theorem not_isOverlong (plain : '"' ∉ docs.toList) {s : String} (quote : '"' ∈ s.toList) :
    ¬ IsOverlong w docs (w.indentation ++ s) := by
  rintro ⟨word, isWord, same, -⟩
  rw [String.append_right_inj] at same
  rw [same] at quote
  exact plain (mem_of_mem_words isWord quote)

theorem keepsWidth_iff (plain : '"' ∉ docs.toList) {s : String} (quote : '"' ∈ s.toList) :
    KeepsWidth w docs (w.indentation ++ s) ↔ (s.utf8ByteSize : Int) ≤ docsWidth w := by
  rw [KeepsWidth, or_iff_left (not_isOverlong plain quote), String.utf8ByteSize_append,
    Writer.utf8ByteSize_indentation, docsWidth]
  omega

/-- A filled line of documentation without quotes is written as it is. -/
theorem indentedLine_of_mem_wrap (plain : '"' ∉ docs.toList) (mem : l ∈ wrap docs (docsWidth w)) :
    w.indentedLine (String.ofList (escapeTripleQuotes l.toList)) =
      if l = "" then "" else w.indentation ++ l := by
  have unquoted : '"' ∉ l.toList := by
    rw [eq_joinWith_words_of_mem_wrap mem]
    exact quote_not_mem_joinWith plain fun word inside => mem_words_of_mem_wrap mem inside
  rw [indentedLine_escapeTripleQuotes mem, escapeTripleQuotes_of_not_mem unquoted,
    String.ofList_toList]

/-- The lines of documentation without quotes are the lines of quotes and the filled lines. -/
theorem forall_mem_longLines_iff (plain : '"' ∉ docs.toList) (p : String → Prop) :
    (∀ line ∈ (longLines w docs).map w.indentedLine, p line) ↔
      p (w.indentation ++ "\"\"\"") ∧
        ∀ l ∈ wrap docs (docsWidth w), p (if l = "" then "" else w.indentation ++ l) := by
  have filled : (wrap docs (docsWidth w)).map (w.indentedLine ∘ fun l =>
      String.ofList (escapeTripleQuotes l.toList)) =
        (wrap docs (docsWidth w)).map fun l => if l = "" then "" else w.indentation ++ l := by
    apply List.map_congr_left
    intro l mem
    rw [Function.comp_apply]
    exact indentedLine_of_mem_wrap plain mem
  rw [longLines, List.cons_append, List.map_cons, List.map_append, List.map_map, filled,
    List.forall_mem_cons, List.forall_mem_append, List.map_singleton, List.forall_mem_singleton,
    indentedLine_quotes, List.forall_mem_map]
  constructor
  · rintro ⟨quotes, lines, -⟩
    exact ⟨quotes, lines⟩
  · rintro ⟨quotes, lines⟩
    exact ⟨quotes, lines, quotes⟩

theorem keepsWidth_of_mem_wrap (mem : l ∈ wrap docs (docsWidth w)) :
    KeepsWidth w docs (if l = "" then "" else w.indentation ++ l) := by
  have text := eq_joinWith_words_of_mem_wrap mem
  have size : ((w.indentation ++ l).utf8ByteSize : Int) = w.indentWidth + l.utf8ByteSize := by
    rw [String.utf8ByteSize_append, Writer.utf8ByteSize_indentation]
    omega
  split
  · exact .inl (by decide)
  rename_i visible
  -- by the number of words in the line
  match found : words l with
  | [] =>
      rw [found] at text
      exact absurd text visible
  | [word] =>
      rw [found, joinWith, String.intercalate_singleton] at text
      by_cases fits : (w.indentWidth : Int) + l.utf8ByteSize ≤ maxWidth
      · exact .inl (by omega)
      · have isWord : word ∈ words docs :=
          mem_words_of_mem_wrap mem (found ▸ List.mem_cons_self)
        refine .inr ⟨word, isWord, by rw [text], ?_⟩
        rw [← text]
        omega
  | first :: second :: rest =>
      rcases eq_empty_or_fills mem with empty | ⟨paragraph, lines, fills, inside⟩
      · exact absurd empty visible
      · have fits := fills.fits l inside (by rw [found]; simp)
        rw [docsWidth] at fits
        exact .inl (by omega)

/-- The line of short documentation without quotes. -/
theorem utf8ByteSize_shortLine (plain : '"' ∉ docs.toList) :
    (shortLine docs).utf8ByteSize = (joinWith " " (words docs)).utf8ByteSize + 4 := by
  have unquoted := quote_not_mem_joinWith plain fun word (mem : word ∈ words docs) => mem
  have ends : "\" ".utf8ByteSize = 2 ∧ " \"".utf8ByteSize = 2 := by decide
  rw [shortLine, ← escapeQuotes, escapeQuotes_of_not_mem unquoted, String.ofList_toList,
    String.utf8ByteSize_append, String.utf8ByteSize_append, ends.1, ends.2]
  omega

theorem keepsWidth_shortLine_iff (plain : '"' ∉ docs.toList) :
    KeepsWidth w docs (w.indentation ++ shortLine docs) ↔
      ((joinWith " " (words docs)).utf8ByteSize : Int) + 4 ≤ docsWidth w := by
  have quote : '"' ∈ (shortLine docs).toList := by
    rw [toList_shortLine]
    exact List.mem_cons_self
  rw [keepsWidth_iff plain quote, utf8ByteSize_shortLine plain]
  omega

/-- The filled lines are within the width, so the lines of quotes decide. -/
theorem keepsWidth_longLines_iff (plain : '"' ∉ docs.toList) :
    (∀ line ∈ (longLines w docs).map w.indentedLine, KeepsWidth w docs line) ↔
      3 ≤ docsWidth w := by
  have quote : '"' ∈ "\"\"\"".toList := by decide
  have size : "\"\"\"".utf8ByteSize = 3 := by decide
  rw [forall_mem_longLines_iff plain, keepsWidth_iff plain quote, size]
  exact and_iff_left fun l => keepsWidth_of_mem_wrap

end Plain

/-! ## The lines of a docstring -/

section Lines

variable {w : Writer} {docs : String}

theorem newline_not_mem_shortLine (docs : String) : '\n' ∉ (shortLine docs).toList := by
  have inside : '\n' ∉ escapeQuotes (joinWith " " (words docs)).toList := by
    intro mem
    rw [escapeQuotes, replaceChar, List.mem_flatMap] at mem
    obtain ⟨c, inside, mem⟩ := mem
    split at mem
    · exact absurd mem (by decide)
    · rw [List.mem_singleton] at mem
      subst mem
      exact absurd (endsLine_eq_false_of_mem_joinWith_words inside) (by decide)
  rw [toList_shortLine]
  simpa using inside

theorem newline_not_mem_longLines (plain : '"' ∉ docs.toList) (lineless : '\n' ∉ w.indent.toList) :
    ∀ line ∈ (longLines w docs).map w.indentedLine, '\n' ∉ line.toList := by
  have indentation := mt (Writer.mem_indentation (w := w)) lineless
  rw [forall_mem_longLines_iff plain fun line => '\n' ∉ line.toList]
  constructor
  · rw [String.toList_append, List.mem_append, not_or]
    exact ⟨indentation, by decide⟩
  · intro l mem
    split
    · exact List.not_mem_nil
    · rw [String.toList_append, List.mem_append, not_or]
      refine ⟨indentation, fun inside => ?_⟩
      exact absurd (eq_space_of_mem_wrap mem inside (by decide)) (by decide)

/-- Documentation without quotes is written in lines within the width, but for words that are too
long by themselves, if and only if one of these holds: there is nothing to write; the words of short
documentation leave four bytes of the width; other documentation has room for its quotes. -/
theorem docstringWidth_exact (plain : '"' ∉ docs.toList) :
    ∃ lines : List String,
      (writeDocstring w docs).text = w.text ++ String.join (lines.map (· ++ "\n")) ∧
      ('\n' ∉ w.indent.toList → ∀ line ∈ lines, '\n' ∉ line.toList) ∧
      ((∀ line ∈ lines, KeepsWidth w docs line) ↔
        isBlankText docs = true ∨
        IsShort w docs ∧ ((joinWith " " (words docs)).utf8ByteSize : Int) + 4 ≤ docsWidth w ∨
        ¬ IsShort w docs ∧ 3 ≤ docsWidth w) := by
  cases visible : isBlankText docs with
  | true =>
      refine ⟨[], ?_, nofun, by simp⟩
      rw [writeDocstring, if_pos visible]
      simp
  | false =>
      by_cases short : IsShort w docs
      · refine ⟨[w.indentation ++ shortLine docs], ?_, fun lineless => ?_, ?_⟩
        · simpa using text_writeDocstring_of_isShort visible short
        · rw [List.forall_mem_singleton, String.toList_append, List.mem_append, not_or]
          exact ⟨mt Writer.mem_indentation lineless, newline_not_mem_shortLine docs⟩
        · rw [List.forall_mem_singleton, keepsWidth_shortLine_iff plain]
          simp [short]
      · refine ⟨(longLines w docs).map w.indentedLine, ?_, newline_not_mem_longLines plain, ?_⟩
        · rw [writeDocstring_of_not_isShort visible short, Writer.text_foldl_line, List.map_map]
          rfl
        · rw [keepsWidth_longLines_iff plain]
          simp [short]

end Lines

/-- Documentation of two paragraphs. -/
def receiving : String := "Takes a message from the queue.\n\nFails if there is none."

theorem docstringWidth_exact_receiving :
    '"' ∉ receiving.toList ∧
    ∃ lines : List String,
      (writeDocstring (Writer.new "    ").deeper receiving).text =
        String.join (lines.map (· ++ "\n")) ∧
      (∀ line ∈ lines, '\n' ∉ line.toList) ∧
      ∀ line ∈ lines, KeepsWidth (Writer.new "    ").deeper receiving line := by
  have plain : '"' ∉ receiving.toList := by decide
  have room : 3 ≤ docsWidth (Writer.new "    ").deeper := by decide
  have long : ¬ IsShort (Writer.new "    ").deeper receiving := by
    have twoParagraphs : ['\n', '\n'] <:+: (trim receiving).toList :=
      ⟨"Takes a message from the queue.".toList, "Fails if there is none.".toList, by decide⟩
    exact fun short => short.1 twoParagraphs
  obtain ⟨lines, text, lineless, width⟩ :=
    docstringWidth_exact (w := (Writer.new "    ").deeper) plain
  refine ⟨plain, lines, ?_, lineless (by decide), width.mpr (.inr (.inr ⟨long, room⟩))⟩
  exact text.trans (String.empty_append)

/-- The words of a line that leave three bytes of it. -/
def lineWords : List (List Char) := List.replicate 23 ['w', 'o', 'r', 'd'] ++ [['b']]

/-- A text of 116 bytes. -/
def fullLine : String := String.ofList (spaced lineWords)

theorem words_fullLine : words fullLine = lineWords.map String.ofList := by
  have each : ∀ word ∈ lineWords, IsRun isBlank word := by
    intro word mem
    rcases List.mem_append.mp mem with mem | mem
    · rw [List.eq_of_mem_replicate mem]
      exact ⟨by decide, by simp; decide⟩
    · rw [List.mem_singleton.mp mem]
      exact ⟨by decide, by simp; decide⟩
  exact words_ofList_spaced each

theorem joinWith_words_fullLine : joinWith " " (words fullLine) = fullLine := by
  rw [words_fullLine, ← ofList_spaced, fullLine]

theorem utf8ByteSize_fullLine : fullLine.utf8ByteSize = 116 := by
  rw [fullLine, utf8ByteSize_ofList]
  decide +kernel

theorem isShort_fullLine : IsShort (.new "  ") fullLine := by
  constructor
  · rw [isOneParagraph_iff, fullLine, String.toList_ofList]
    decide +kernel
  · rw [joinWith_words_fullLine, utf8ByteSize_fullLine]
    decide

/-- Short words that leave three bytes of the line: with its delimiters it has a byte too many. -/
theorem docstring_too_wide :
    '"' ∉ fullLine.toList ∧
    (∀ word ∈ words fullLine, word.utf8ByteSize ≤ 4) ∧
    (writeDocstring (.new "  ") fullLine).text = "\" " ++ fullLine ++ " \"" ++ "\n" ∧
    ("\" " ++ fullLine ++ " \"").utf8ByteSize = 120 ∧
    ¬ KeepsWidth (.new "  ") fullLine ("\" " ++ fullLine ++ " \"") := by
  have visible : isBlankText fullLine = false := by
    rw [isBlankText, fullLine, String.toList_ofList]
    decide +kernel
  have plain : '"' ∉ fullLine.toList := by
    rw [fullLine, String.toList_ofList]
    decide +kernel
  have line : shortLine fullLine = "\" " ++ fullLine ++ " \"" := by
    rw [shortLine, ← escapeQuotes, joinWith_words_fullLine, escapeQuotes_of_not_mem plain,
      String.ofList_toList]
  have size := utf8ByteSize_shortLine plain
  rw [line, joinWith_words_fullLine, utf8ByteSize_fullLine] at size
  have each : ∀ word ∈ words fullLine, word.utf8ByteSize ≤ 4 := by
    rw [words_fullLine, List.forall_mem_map]
    intro word mem
    rw [utf8ByteSize_ofList]
    revert word
    decide +kernel
  refine ⟨plain, each, ?_, size, ?_⟩
  · rw [text_writeDocstring_of_isShort visible isShort_fullLine, line]
    exact String.empty_append.trans (congrArg (· ++ "\n") String.empty_append)
  · rintro (fits | ⟨word, isWord, -, long⟩)
    · rw [size] at fits
      exact absurd fits (by decide)
    · have bytes := each word isWord
      have indent : (Writer.new "  ").indentWidth = 0 := rfl
      have width : maxWidth = 119 := rfl
      omega

end ApiCompiler.Python
