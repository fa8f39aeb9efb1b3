import ApiCompiler.Proofs.Python.StringLiteral
import ApiCompiler.Proofs.Writer.Lines
import ApiCompiler.Target.Python.Declaration

/-!
# Docstrings

Documentation is written on one line if it is a single paragraph of few words, else on lines of its
own between lines of three quotes.
-/

namespace ApiCompiler.Python

open Text

/-! ## The two forms -/

/-- The width that the indentation leaves to documentation. -/
def docsWidth (w : Writer) : Int := maxWidth - w.indentWidth

/-- Documentation that is written on one line: a single paragraph whose words leave three bytes of
the width. -/
def IsShort (w : Writer) (docs : String) : Prop :=
  IsOneParagraph docs ∧ ((joinWith " " (words docs)).utf8ByteSize : Int) + 3 ≤ docsWidth w

/-- The line of short documentation. -/
def shortLine (docs : String) : String :=
  "\" " ++ String.ofList (replaceChar '"' ['\\', '"'] (joinWith " " (words docs)).toList) ++ " \""

/-- The lines of other documentation. -/
def longLines (w : Writer) (docs : String) : List String :=
  "\"\"\"" :: ((wrap docs (docsWidth w)).map fun l =>
    String.ofList (escapeTripleQuotes l.toList)) ++ ["\"\"\""]

section Forms

variable {w : Writer} {docs : String}

theorem byteCount_toList (s : String) : byteCount s.toList = s.utf8ByteSize := by
  rw [← utf8ByteSize_ofList, String.ofList_toList]

theorem isShort_iff (visible : isBlankText docs = false) : IsShort w docs ↔
    ∃ l, wrap docs (docsWidth w) = [l] ∧ (byteCount l.toList : Int) < docsWidth w - 2 := by
  constructor
  · rintro ⟨one, size⟩
    refine ⟨_, (wrap_eq_singleton_iff visible (by omega)).mpr ⟨one, rfl⟩, ?_⟩
    rw [byteCount_toList]
    omega
  · rintro ⟨l, single, size⟩
    rw [byteCount_toList] at size
    obtain ⟨one, rfl⟩ := (wrap_eq_singleton_iff visible (by omega)).mp single
    exact ⟨one, by omega⟩

theorem writeDocstring_of_isShort (visible : isBlankText docs = false) (short : IsShort w docs) :
    writeDocstring w docs = w.line (shortLine docs) := by
  obtain ⟨one, size⟩ := short
  have single : wrap docs (docsWidth w) = [joinWith " " (words docs)] :=
    (wrap_eq_singleton_iff visible (by omega)).mpr ⟨one, rfl⟩
  have small : (byteCount (joinWith " " (words docs)).toList : Int) < docsWidth w - 2 := by
    rw [byteCount_toList]
    omega
  rw [docsWidth] at single small
  simp only [writeDocstring, visible, Bool.false_eq_true, if_false, single, small, if_true]
  rfl

theorem writeDocstring_of_not_isShort (visible : isBlankText docs = false)
    (long : ¬ IsShort w docs) :
    writeDocstring w docs = (longLines w docs).foldl Writer.line w := by
  have block : (longLines w docs).foldl Writer.line w =
      ((wrap docs (docsWidth w)).foldl
        (fun w l => w.line (String.ofList (escapeTripleQuotes l.toList)))
          (w.line "\"\"\"")).line "\"\"\"" := by
    rw [longLines, List.foldl_append, List.foldl_cons, List.foldl_nil, List.foldl_cons,
      List.foldl_map]
  rw [isShort_iff visible, docsWidth] at long
  rw [block, docsWidth]
  simp only [writeDocstring, visible, Bool.false_eq_true, if_false]
  split
  · rename_i l single
    rw [if_neg fun small => long ⟨l, single, small⟩, single]
  · rfl

theorem extends_writeDocstring (w : Writer) (docs : String) :
    w.Extends (writeDocstring w docs) := by
  cases visible : isBlankText docs with
  | true =>
      rw [writeDocstring, if_pos visible]
      exact Writer.Extends.refl w
  | false =>
      by_cases short : IsShort w docs
      · rw [writeDocstring_of_isShort visible short]
        exact w.extends_line _
      · rw [writeDocstring_of_not_isShort visible short]
        exact w.extends_foldl_line _

end Forms

/-! ## Quotes behind backslashes -/

/-- The number of backslashes that a text ends with. -/
def trailingBackslashes (cs : List Char) : Nat := (cs.rtakeWhile (· == '\\')).length

/-- Every quote stands behind an even number of backslashes. -/
def GuardsQuotes (cs : List Char) : Prop :=
  ∀ front back, cs = front ++ '"' :: back → 2 ∣ trailingBackslashes front

section Quotes

variable {c : Char} {cs ds : List Char}

theorem trailingBackslashes_append_cons (other : c ≠ '\\') (front back : List Char) :
    trailingBackslashes (front ++ c :: back) = trailingBackslashes back := by
  have reversed : (front ++ c :: back).reverse = back.reverse ++ c :: front.reverse := by simp
  rw [trailingBackslashes, trailingBackslashes, List.rtakeWhile, List.rtakeWhile, reversed,
    List.takeWhile_append]
  split
  · rename_i all
    rw [List.takeWhile_cons_of_neg (by simpa using other), List.append_nil, List.length_reverse,
      List.length_reverse, List.length_reverse, all, List.length_reverse]
  · rfl

theorem two_dvd_trailingBackslashes_pair (front : List Char) :
    2 ∣ trailingBackslashes ('\\' :: '\\' :: front) ↔ 2 ∣ trailingBackslashes front := by
  have reversed : ('\\' :: '\\' :: front).reverse = front.reverse ++ ['\\', '\\'] := by simp
  rw [trailingBackslashes, trailingBackslashes, List.rtakeWhile, List.rtakeWhile, reversed,
    List.takeWhile_append]
  split
  · rename_i all
    rw [List.length_reverse, List.length_reverse, all]
    simp
  · rfl

theorem guardsQuotes_nil : GuardsQuotes [] := by
  intro front back split
  cases front <;> exact nomatch split

theorem guardsQuotes_quote_iff : GuardsQuotes ('"' :: cs) ↔ GuardsQuotes cs := by
  have same := trailingBackslashes_append_cons (c := '"') (by decide) []
  constructor
  · rintro guarded front back rfl
    rw [← same]
    exact guarded ('"' :: front) back rfl
  · intro guarded front back split
    cases front with
    | nil => exact Nat.dvd_zero 2
    | cons d front =>
        obtain ⟨rfl, later⟩ := List.cons.inj split
        rw [← List.nil_append ('"' :: front), same]
        exact guarded front back later

/-- The quotes on both sides of a character that is neither a quote nor a backslash. -/
theorem guardsQuotes_append_cons_iff (backslash : c ≠ '\\') (quote : c ≠ '"') :
    GuardsQuotes (cs ++ c :: ds) ↔ GuardsQuotes cs ∧ GuardsQuotes ds := by
  constructor
  · intro guarded
    constructor
    · rintro front back rfl
      exact guarded front (back ++ c :: ds) (by simp)
    · rintro front back rfl
      rw [← trailingBackslashes_append_cons backslash cs]
      exact guarded (cs ++ c :: front) back (by simp)
  · rintro ⟨first, second⟩ front back split
    rcases List.append_eq_append_iff.mp split with ⟨between, rfl, later⟩ | ⟨between, rfl, later⟩
    · cases between with
      | nil => exact absurd (List.cons.inj later).1 quote
      | cons d between =>
          obtain ⟨rfl, tail⟩ := List.cons.inj later
          rw [trailingBackslashes_append_cons backslash]
          exact second between back tail
    · cases between with
      | nil => exact absurd (List.cons.inj later).1.symm quote
      | cons d between =>
          obtain ⟨rfl, -⟩ := List.cons.inj later
          exact first front between rfl

/-- Two backslashes do not change which quotes stand behind an even number of them. -/
theorem guardsQuotes_pair_iff : GuardsQuotes ('\\' :: '\\' :: cs) ↔ GuardsQuotes cs := by
  constructor
  · rintro guarded front back rfl
    exact (two_dvd_trailingBackslashes_pair front).mp (guarded ('\\' :: '\\' :: front) back rfl)
  · intro guarded front back split
    match front, split with
    | a :: b :: front, split =>
        simp only [List.cons_append, List.cons.injEq] at split
        obtain ⟨rfl, rfl, later⟩ := split
        exact (two_dvd_trailingBackslashes_pair front).mpr (guarded front back later)

theorem guardsQuotes_backslash : GuardsQuotes ['\\'] := by
  intro front back split
  match front, split with
  | a :: b :: front, split => exact nomatch split

theorem not_guardsQuotes_escaped : ¬ GuardsQuotes ('\\' :: '"' :: cs) := by
  intro guarded
  exact absurd (guarded ['\\'] cs rfl) (by decide)

theorem not_quoting_of_isBlank (blank : isBlank c = true) : c ≠ '\\' ∧ c ≠ '"' := by
  constructor
  all_goals
    rintro rfl
    exact absurd blank (by decide)

/-- Whether the quotes of a text are guarded is decided word by word. -/
theorem guardsQuotes_iff_runs (cs : List Char) :
    GuardsQuotes cs ↔ ∀ word ∈ runs isBlank cs, GuardsQuotes word := by
  refine runs_induction (motive := fun cs words => GuardsQuotes cs ↔ ∀ word ∈ words,
    GuardsQuotes word) ?nil ?run ?split cs
  case nil => simpa using guardsQuotes_nil
  case run => simp
  case split =>
    intro before c after blank first second
    obtain ⟨backslash, quote⟩ := not_quoting_of_isBlank blank
    rw [guardsQuotes_append_cons_iff backslash quote, first, second, List.forall_mem_append]

theorem guardsQuotes_joinWith_words (docs : String) :
    GuardsQuotes (joinWith " " (words docs)).toList ↔ GuardsQuotes docs.toList := by
  rw [guardsQuotes_iff_runs, runs_joinWith_words, ← guardsQuotes_iff_runs]

end Quotes

/-! ## Short documentation as a literal -/

section Short

variable {c : Char} {cs : List Char}

theorem replaceChar_cons (old : Char) (new : List Char) (c : Char) (cs : List Char) :
    replaceChar old new (c :: cs) = (if c = old then new else [c]) ++ replaceChar old new cs := by
  rw [replaceChar, List.flatMap_cons]
  rfl

/-- The text of short documentation with its quotes behind backslashes. -/
def escapeQuotes (cs : List Char) : List Char := replaceChar '"' ['\\', '"'] cs

theorem escapeQuotes_quote : escapeQuotes ('"' :: cs) = '\\' :: '"' :: escapeQuotes cs := by
  rw [escapeQuotes, replaceChar_cons, if_pos rfl]
  rfl

theorem escapeQuotes_other (other : c ≠ '"') : escapeQuotes (c :: cs) = c :: escapeQuotes cs := by
  rw [escapeQuotes, replaceChar_cons, if_neg other]
  rfl

/-- A backslash and the character behind it, with the text behind both. -/
theorem guardsQuotes_backslash_cons_iff (quote : c ≠ '"') :
    GuardsQuotes ('\\' :: c :: cs) ↔ GuardsQuotes cs := by
  by_cases backslash : c = '\\'
  · rw [backslash, guardsQuotes_pair_iff]
  · have apart : GuardsQuotes (['\\'] ++ c :: cs) ↔ GuardsQuotes ['\\'] ∧ GuardsQuotes cs :=
      guardsQuotes_append_cons_iff backslash quote
    exact apart.trans (and_iff_right guardsQuotes_backslash)

/-- A text without line breaks whose quotes got backslashes is the body of a literal that ends
behind it if and only if its quotes were guarded. -/
theorem close?_escapeQuotes_iff (after : List Char) (inside : ∀ c ∈ cs, endsLine c = false) :
    Delimiter.one.close? (escapeQuotes cs ++ ' ' :: '"' :: after) =
        some (escapeQuotes cs ++ [' '], after) ↔ GuardsQuotes cs := by
  induction cs using literal_induction with
  | nil =>
      exact iff_of_true (Delimiter.one_passes_blank.close? after) guardsQuotes_nil
  | backslash =>
      -- the backslash escapes the space in front of the delimiter
      have passes := Delimiter.passes_escape .one ' '
      exact iff_of_true (passes.close? after) guardsQuotes_backslash
  | escape c cs ih =>
      rw [List.forall_mem_cons, List.forall_mem_cons] at inside
      rw [escapeQuotes_other (by decide)]
      by_cases quote : c = '"'
      · -- the backslash of the quote is escaped itself, and the quote ends the literal
        rw [quote, escapeQuotes_quote]
        apply iff_of_false _ not_guardsQuotes_escaped
        intro closed
        have early := (Delimiter.passes_escape .one '\\').close?_append_iff.mp closed
        exact nomatch (Delimiter.close?_quotes .one _).symm.trans early
      · rw [escapeQuotes_other quote, guardsQuotes_backslash_cons_iff quote, ← ih inside.2.2]
        exact (Delimiter.passes_escape .one c).close?_append_iff
  | plain c cs backslash ih =>
      rw [List.forall_mem_cons] at inside
      by_cases quote : c = '"'
      · rw [quote, escapeQuotes_quote, guardsQuotes_quote_iff, ← ih inside.2]
        exact (Delimiter.passes_escape .one '"').close?_append_iff
      · have passes : Delimiter.one.Passes [c] :=
          Delimiter.passes_singleton backslash quote (.inr inside.1)
        rw [escapeQuotes_other quote, ← List.nil_append (c :: cs),
          guardsQuotes_append_cons_iff backslash quote, and_iff_right guardsQuotes_nil,
          ← ih inside.2]
        exact passes.close?_append_iff

end Short

/-! ## Other documentation as a literal -/

section Long

variable {w : Writer} {docs : String} {cs : List Char}

theorem escapeTripleQuotes_cons {c : Char} (opens : ¬ ['"', '"', '"'] <+: c :: cs) :
    escapeTripleQuotes (c :: cs) = c :: escapeTripleQuotes cs := by
  rw [escapeTripleQuotes]
  rintro rest rfl rfl
  exact opens (List.prefix_append ['"', '"', '"'] rest)

/-- The escapes do not make two quotes of what does not begin with two. -/
theorem not_begins_two_quotes (opens : ¬ ['"', '"'] <+: cs) (rest : List Char) :
    ¬ ['"', '"'] <+: escapeTripleQuotes cs ++ '\n' :: rest := by
  have other {c : Char} (different : c ≠ '"') (cs rest : List Char) :
      ¬ ['"'] <+: escapeTripleQuotes (c :: cs) ++ rest := by
    rw [escapeTripleQuotes_cons fun starts => different (List.cons_prefix_cons.mp starts).1.symm]
    exact fun starts => different (List.cons_prefix_cons.mp starts).1.symm
  match cs with
  | [] => simp [escapeTripleQuotes]
  | c :: cs =>
      by_cases quote : c = '"'
      · subst quote
        rw [escapeTripleQuotes_cons fun starts => opens ((List.prefix_append _ ['"']).trans starts),
          List.cons_append, List.cons_prefix_cons]
        rintro ⟨-, starts⟩
        match cs with
        | [] => simp [escapeTripleQuotes] at starts
        | d :: cs =>
            refine other ?_ cs _ starts
            rintro rfl
            exact opens (List.prefix_append ['"', '"'] cs)
      · exact fun starts => other quote cs _ ((List.prefix_append ['"'] ['"']).trans starts)

theorem passes_quote_escape (c : Char) : Delimiter.three.Passes ['"', '\\', c] := by
  intro rest
  have opens : ¬ Delimiter.three.quotes <+: '"' :: '\\' :: c :: rest := by
    simp [Delimiter.quotes]
  change Delimiter.three.close? ('"' :: '\\' :: c :: rest) = _
  rw [Delimiter.close?_of_not_begins (by decide) opens (.inl rfl), Delimiter.close?_escape,
    Option.map_map]
  rfl

/-- No literal between three quotes ends inside a line of documentation with the line break behind
it; neither if the line stands behind a backslash. -/
theorem passes_escapeTripleQuotes (cs : List Char) :
    Delimiter.three.Passes (escapeTripleQuotes cs ++ ['\n']) ∧
      Delimiter.three.Passes ('\\' :: escapeTripleQuotes cs ++ ['\n']) := by
  -- what stands behind a backslash is read in other pairs, so both are shown together
  have quote := Delimiter.passes_escape .three '"'
  fun_induction escapeTripleQuotes cs with
  | case1 rest ih =>
      constructor
      · exact quote.append (quote.append (quote.append ih.1))
      · have backslash := Delimiter.passes_escape .three '\\'
        exact backslash.append ((passes_quote_escape '"').append (quote.append ih.1))
  | case2 c rest noDelimiter ih =>
      constructor
      · by_cases backslash : c = '\\'
        · rw [backslash]
          exact ih.2
        intro after
        have opens : ¬ Delimiter.three.quotes <+:
            c :: (escapeTripleQuotes rest ++ '\n' :: after) := by
          rw [Delimiter.quotes, List.cons_prefix_cons]
          rintro ⟨rfl, starts⟩
          refine not_begins_two_quotes ?_ after starts
          rintro ⟨tail, rfl⟩
          exact noDelimiter tail rfl rfl
        have later := ih.1 after
        rw [List.append_assoc, List.singleton_append] at later ⊢
        rw [List.cons_append, Delimiter.close?_of_not_begins backslash opens (.inl rfl), later,
          Option.map_map]
        rfl
      · exact (Delimiter.passes_escape .three c).append ih.1
  | case3 =>
      constructor
      · exact Delimiter.passes_singleton (by decide) (by decide) (.inl rfl)
      · exact Delimiter.passes_escape .three '\n'

theorem getLast?_escapeTripleQuotes (cs : List Char) :
    (escapeTripleQuotes cs).getLast? = cs.getLast? := by
  fun_induction escapeTripleQuotes cs with
  | case1 rest ih => cases rest <;> simp_all [List.getLast?_cons]
  | case2 c rest noDelimiter ih => rw [List.getLast?_cons, List.getLast?_cons, ih]
  | case3 => rfl

/-- A line of documentation as it is written, behind its indentation. -/
theorem indentedLine_escapeTripleQuotes {width : Int} {l : String} (mem : l ∈ wrap docs width) :
    w.indentedLine (String.ofList (escapeTripleQuotes l.toList)) =
      if l = "" then "" else w.indentation ++ String.ofList (escapeTripleQuotes l.toList) := by
  split
  · rename_i empty
    rw [empty]
    rfl
  · rename_i visible
    apply w.indentedLine_of_ends
    rw [Writer.EndsVisibly, String.toList_ofList, getLast?_escapeTripleQuotes]
    exact ends_of_mem_wrap mem visible

theorem indentedLine_quotes (w : Writer) :
    w.indentedLine "\"\"\"" = w.indentation ++ "\"\"\"" :=
  w.indentedLine_of_ends (by decide)

/-- What stands between the lines of three quotes, up to the second of them. -/
def longBody (w : Writer) (docs : String) : List Char :=
  '\n' :: ((wrap docs (docsWidth w)).flatMap fun l =>
    (w.indentedLine (String.ofList (escapeTripleQuotes l.toList))).toList ++ ['\n']) ++
      w.indentation.toList

theorem toList_longText (w : Writer) (docs : String) :
    (String.join ((longLines w docs).map fun s => w.indentedLine s ++ "\n")).toList =
      w.indentation.toList ++ (Delimiter.three.quotes ++
        (longBody w docs ++ (Delimiter.three.quotes ++ ['\n']))) := by
  rw [String.toList_join, longLines, longBody]
  simp [indentedLine_quotes, List.flatMap_map, Delimiter.quotes]

theorem passes_longBody (blank : w.IndentsWithBlanks) :
    Delimiter.three.Passes (longBody w docs) := by
  have indentation : Delimiter.three.Passes w.indentation.toList :=
    Delimiter.three_passes_of_plain fun c mem => not_quoting_of_isBlank (blank.indentation mem).1
  have newline : Delimiter.three.Passes ['\n'] :=
    Delimiter.passes_singleton (by decide) (by decide) (.inl rfl)
  have lines : Delimiter.three.Passes ((wrap docs (docsWidth w)).flatMap fun l =>
      (w.indentedLine (String.ofList (escapeTripleQuotes l.toList))).toList ++ ['\n']) := by
    apply Delimiter.Passes.flatMap
    intro l mem
    rw [indentedLine_escapeTripleQuotes mem]
    split
    · exact newline
    · rw [String.toList_append, String.toList_ofList, List.append_assoc]
      exact indentation.append (passes_escapeTripleQuotes l.toList).1
  exact (newline.append lines).append indentation

end Long

/-! ## Documentation as a literal -/

theorem toList_shortLine (docs : String) : (shortLine docs).toList =
    '"' :: ' ' :: (escapeQuotes (joinWith " " (words docs)).toList ++ [' ', '"']) := by
  simp [shortLine, escapeQuotes]

theorem endsLine_eq_false_of_mem_joinWith_words {s : String} {c : Char}
    (mem : c ∈ (joinWith " " (words s)).toList) : endsLine c = false := by
  rw [Bool.eq_false_iff]
  intro ends
  have blank : isBlank c = true := by
    simp only [endsLine, Bool.or_eq_true, beq_iff_eq] at ends
    rcases ends with rfl | rfl
    all_goals decide
  rw [eq_space_of_mem_joinWith_words mem blank] at ends
  exact absurd ends (by decide)

/-- The text of short documentation. -/
theorem text_writeDocstring_of_isShort {w : Writer} {docs : String}
    (visible : isBlankText docs = false) (short : IsShort w docs) :
    (writeDocstring w docs).text = w.text ++ (w.indentation ++ shortLine docs ++ "\n") := by
  have ends : Writer.EndsVisibly (shortLine docs) := by
    rw [Writer.EndsVisibly, toList_shortLine]
    exact ⟨'"', by simp [List.getLast?_cons], by decide⟩
  rw [writeDocstring_of_isShort visible short, Writer.text_line, w.indentedLine_of_ends ends]

/-- Short documentation is one literal if and only if its quotes are guarded. -/
theorem literal?_shortLine_iff (docs : String) (after : List Char) :
    (∃ body, literal? ((shortLine docs).toList ++ after) = some (body, after)) ↔
      GuardsQuotes docs.toList := by
  have inside := fun c => endsLine_eq_false_of_mem_joinWith_words (s := docs) (c := c)
  have opens : literal? ((shortLine docs).toList ++ after) = Delimiter.one.close?
      ([' '] ++ (escapeQuotes (joinWith " " (words docs)).toList ++ ' ' :: '"' :: after)) := by
    rw [toList_shortLine]
    simp [literal?]
  rw [opens, ← guardsQuotes_joinWith_words, ← close?_escapeQuotes_iff after inside,
    ← Delimiter.one_passes_blank.close?_append_iff]
  constructor
  · rintro ⟨body, closed⟩
    have text := Delimiter.eq_append_of_close? closed
    have same : body ++ '"' :: after =
        ([' '] ++ (escapeQuotes (joinWith " " (words docs)).toList ++ [' '])) ++ '"' :: after := by
      rw [← List.singleton_append, ← Delimiter.quotes, ← text]
      simp [Delimiter.quotes]
    rw [closed, List.append_cancel_right same]
  · exact fun closed => ⟨_, closed⟩

/-- Documentation between lines of three quotes is one literal. -/
theorem literal?_longText {w : Writer} (blank : w.IndentsWithBlanks) (docs : String)
    (after : List Char) :
    literal? (Delimiter.three.quotes ++ (longBody w docs ++ (Delimiter.three.quotes ++ after))) =
      some (longBody w docs, after) :=
  (passes_longBody blank).close? after

/-- Documentation that is not blank is written behind the indentation and begins with a quote. It is
one literal, with the line break behind it, if and only if it is not short or each of its quotes
stands behind an even number of backslashes. -/
theorem docstring_exact {w : Writer} {docs : String} (blank : w.IndentsWithBlanks)
    (visible : isBlankText docs = false) :
    ∃ literal : String,
      (writeDocstring w docs).text = w.text ++ (w.indentation ++ literal ++ "\n") ∧
      (∀ c ∈ w.indentation.toList, isBlank c = true ∧ isLineBreak c = false) ∧
      literal.toList.head? = some '"' ∧
      ∀ after, (∃ body, literal? (literal.toList ++ '\n' :: after) = some (body, '\n' :: after)) ↔
        (IsShort w docs → GuardsQuotes docs.toList) := by
  by_cases short : IsShort w docs
  · refine ⟨shortLine docs, text_writeDocstring_of_isShort visible short,
      fun c => blank.indentation, ?_, fun after => ?_⟩
    · rw [toList_shortLine]
      rfl
    · rw [literal?_shortLine_iff, forall_prop_of_true short]
  · refine ⟨String.ofList (Delimiter.three.quotes ++ (longBody w docs ++ Delimiter.three.quotes)),
      ?_, fun c => blank.indentation, ?_, fun after => ?_⟩
    · rw [writeDocstring_of_not_isShort visible short, Writer.text_foldl_line]
      apply String.toList_inj.mp
      rw [String.toList_append, toList_longText]
      simp
    · rw [String.toList_ofList]
      rfl
    · rw [String.toList_ofList, List.append_assoc, List.append_assoc, literal?_longText blank]
      exact iff_of_true ⟨_, rfl⟩ fun isShort => absurd isShort short

/-- A sentence with quotes, one of them behind two backslashes. -/
def greeting : String := "Say \"hi\", or \\\\\"bye\"."

theorem docstring_exact_greeting :
    (Writer.new "  ").IndentsWithBlanks ∧ isBlankText greeting = false ∧
      GuardsQuotes greeting.toList ∧
      ∃ literal : String, (writeDocstring (.new "  ") greeting).text = literal ++ "\n" ∧
        ∀ after, ∃ body,
          literal? (literal.toList ++ '\n' :: after) = some (body, '\n' :: after) := by
  have blank : (Writer.new "  ").IndentsWithBlanks := by decide
  have visible : isBlankText greeting = false := by decide
  have all : greeting.toList.all (!endsLine ·) = true := by decide
  have guarded : GuardsQuotes greeting.toList :=
    (close?_escapeQuotes_iff [] (by simpa using all)).mp (by decide)
  obtain ⟨literal, text, -, -, one⟩ := docstring_exact blank visible
  exact ⟨blank, visible, guarded, literal, text, fun after => (one after).mpr fun _ => guarded⟩

/-- A quote behind a backslash: the backslash that is put in front of the quote is escaped by the
one before it, so the literal ends in the middle of the documentation. -/
theorem docstring_ends_early :
    isBlankText "a\\\"b" = false ∧ (Writer.new "  ").IndentsWithBlanks ∧
    (writeDocstring (.new "  ") "a\\\"b").text = "\" a\\\\\"b \"\n" ∧
    literal? "\" a\\\\\"b \"\n".toList = some (" a\\\\".toList, "b \"\n".toList) ∧
    ∀ body, literal? "\" a\\\\\"b \"\n".toList ≠ some (body, ['\n']) := by
  have early : literal? "\" a\\\\\"b \"\n".toList =
      some (" a\\\\".toList, "b \"\n".toList) := by decide
  refine ⟨by decide, by decide, by decide, early, fun body whole => ?_⟩
  have rest : "b \"\n".toList = ['\n'] :=
    congrArg Prod.snd (Option.some.inj (early.symm.trans whole))
  exact absurd rest (by decide)

end ApiCompiler.Python
