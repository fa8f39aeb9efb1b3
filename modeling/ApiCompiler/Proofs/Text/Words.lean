import ApiCompiler.Proofs.Text

/-!
# Words, paragraphs and joined lists

What is joined with a separator begins and ends with its outer pieces, and its pieces can be read
off again if each of them can be told from what follows it.

A text is cut into words, the maximal runs between separators, and into paragraphs at its blank
lines. Words do not cross a separator, so the words of a text are those of its parts, and the
white space at its ends and its blank lines do not count.
-/

namespace ApiCompiler.Text

section Pieces

/-! ## Pieces of a joined list -/

variable {α β : Type} {gap piece : List α} {pieces : List (List α)}

theorem exists_intercalate_of_head? (gap : List α) (first : pieces.head? = some piece) :
    ∃ back, gap.intercalate pieces = piece ++ back ∧ (back = [] ∨ gap <+: back) := by
  cases pieces with
  | nil => exact nomatch first
  | cons p rest =>
    cases first
    cases rest with
    | nil => exact ⟨[], by rw [List.intercalate_singleton, List.append_nil], .inl rfl⟩
    | cons second rest =>
      refine ⟨gap ++ gap.intercalate (second :: rest), ?_, .inr (List.prefix_append _ _)⟩
      rw [List.intercalate_cons_cons, List.append_assoc]

theorem exists_intercalate_of_getLast? (gap : List α) (last : pieces.getLast? = some piece) :
    ∃ front, gap.intercalate pieces = front ++ piece ∧ (front = [] ∨ gap <:+ front) := by
  induction pieces with
  | nil => exact nomatch last
  | cons p rest ih =>
    cases rest with
    | nil =>
      cases last
      exact ⟨[], List.intercalate_singleton, .inl rfl⟩
    | cons second rest =>
      rw [List.getLast?_cons_cons] at last
      obtain ⟨front, joined, ends⟩ := ih last
      refine ⟨p ++ gap ++ front, ?_, .inr ?_⟩
      · rw [List.intercalate_cons_cons, joined, List.append_assoc (p ++ gap)]
      · rcases ends with rfl | ends
        · rw [List.append_nil]
          exact List.suffix_append _ _
        · exact ends.trans (List.suffix_append _ _)

theorem intercalate_append_singleton (gap : List α) (nonempty : pieces ≠ []) (piece : List α) :
    gap.intercalate (pieces ++ [piece]) = gap.intercalate pieces ++ (gap ++ piece) := by
  induction pieces with
  | nil => exact absurd rfl nonempty
  | cons p rest ih =>
    cases rest with
    | nil => simp [List.intercalate_cons_cons]
    | cons second rest =>
      rw [List.cons_append, List.cons_append, List.intercalate_cons_cons, ← List.cons_append,
        ih (List.cons_ne_nil _ _), List.intercalate_cons_cons, List.append_assoc (p ++ gap)]

theorem mem_of_mem_intercalate {a : α} (mem : a ∈ gap.intercalate pieces) :
    a ∈ gap ∨ ∃ piece ∈ pieces, a ∈ piece := by
  induction pieces with
  | nil => exact nomatch mem
  | cons p rest ih =>
    cases rest with
    | nil =>
      rw [List.intercalate_singleton] at mem
      exact .inr ⟨p, List.mem_cons_self, mem⟩
    | cons second rest =>
      rw [List.intercalate_cons_cons, List.mem_append, List.mem_append] at mem
      rcases mem with (first | between) | later
      · exact .inr ⟨p, List.mem_cons_self, first⟩
      · exact .inl between
      · rcases ih later with between | ⟨q, inside, mem⟩
        · exact .inl between
        · exact .inr ⟨q, List.mem_cons_of_mem p inside, mem⟩

theorem map_intercalate (f : α → β) (gap : List α) (pieces : List (List α)) :
    (gap.intercalate pieces).map f = (gap.map f).intercalate (pieces.map (List.map f)) := by
  induction pieces with
  | nil => rfl
  | cons p rest ih =>
    cases rest with
    | nil => simp [List.intercalate_singleton]
    | cons second rest =>
      rw [List.map_cons, List.map_cons, List.intercalate_cons_cons, List.intercalate_cons_cons,
        List.map_append, List.map_append, ih]
      rfl

/-- What is between the pieces does not count if nothing is made of it. -/
theorem flatMap_intercalate {f : α → List β} (silent : gap.flatMap f = [])
    (pieces : List (List α)) :
    (gap.intercalate pieces).flatMap f = pieces.flatMap (List.flatMap f) := by
  induction pieces with
  | nil => rfl
  | cons p rest ih =>
    cases rest with
    | nil => simp [List.intercalate_singleton]
    | cons second rest =>
      rw [List.intercalate_cons_cons, List.flatMap_append, List.flatMap_append, silent, ih,
        List.append_nil]
      rfl

end Pieces

section Reading

/-! ## Reading the pieces off

A piece that ends where a certain kind of continuation begins is determined by the text that it
stands in. Such pieces are determined one after the other, up to the last.
-/

variable {α γ : Type} {as bs r q : List α}

/-- A run of characters of one kind ends at the first character of another kind. -/
theorem append_inj_of_ends {p : α → Prop} (inside : ∀ a ∈ as, p a) (others : ∀ b ∈ bs, p b)
    (ends : ∀ c ∈ r.head?, ¬ p c) (stops : ∀ c ∈ q.head?, ¬ p c) (same : as ++ r = bs ++ q) :
    as = bs ∧ r = q := by
  induction as generalizing bs with
  | nil =>
    cases bs with
    | nil => exact ⟨rfl, same⟩
    | cons b bs =>
      rw [List.nil_append] at same
      subst same
      exact absurd (others b List.mem_cons_self) (ends b rfl)
  | cons a as ih =>
    cases bs with
    | nil =>
      rw [List.nil_append] at same
      subst same
      exact absurd (inside a List.mem_cons_self) (stops a rfl)
    | cons b bs =>
      obtain ⟨rfl, tail⟩ := List.cons.inj same
      obtain ⟨rfl, rest⟩ := ih (fun x mem => inside x (List.mem_cons_of_mem _ mem))
        (fun x mem => others x (List.mem_cons_of_mem _ mem)) tail
      exact ⟨rfl, rest⟩

/-- Items with their texts joined are determined by the joined text, if each of them is
determined by a text that continues with a separator or as the joined text does. -/
theorem intercalate_inj {text : γ → List α} {gap : List α} {Ends : List α → Prop}
    {items others : List γ} (nonempty : items ≠ []) (otherNonempty : others ≠ [])
    (determined : ∀ a ∈ items, ∀ b ∈ others, ∀ r q, Ends r → Ends q →
      text a ++ r = text b ++ q → a = b)
    (between : ∀ rest, Ends (gap ++ rest)) (ends : Ends r) (stops : Ends q)
    (last : ¬ gap <+: r) (otherLast : ¬ gap <+: q)
    (same : gap.intercalate (items.map text) ++ r = gap.intercalate (others.map text) ++ q) :
    items = others ∧ r = q := by
  induction items generalizing others with
  | nil => exact absurd rfl nonempty
  | cons a items ih =>
    cases others with
    | nil => exact absurd rfl otherNonempty
    | cons b others =>
      have first {r q : List α} (ends : Ends r) (stops : Ends q)
          (same : text a ++ r = text b ++ q) : a = b ∧ r = q := by
        have eq := determined a List.mem_cons_self b List.mem_cons_self r q ends stops same
        rw [eq] at same
        exact ⟨eq, List.append_cancel_left same⟩
      cases items with
      | nil =>
        cases others with
        | nil =>
          simp only [List.map_cons, List.map_nil, List.intercalate_singleton] at same
          obtain ⟨rfl, rest⟩ := first ends stops same
          exact ⟨rfl, rest⟩
        | cons c others =>
          simp only [List.map_cons, List.map_nil, List.intercalate_singleton,
            List.intercalate_cons_cons, List.append_assoc] at same
          obtain ⟨_, rest⟩ := first ends (between _) same
          exact absurd (rest ▸ List.prefix_append _ _) last
      | cons c items =>
        cases others with
        | nil =>
          simp only [List.map_cons, List.map_nil, List.intercalate_singleton,
            List.intercalate_cons_cons, List.append_assoc] at same
          obtain ⟨_, rest⟩ := first (between _) stops same
          exact absurd (rest ▸ List.prefix_append _ _) otherLast
        | cons d others =>
          simp only [List.map_cons, List.intercalate_cons_cons, List.append_assoc] at same
          obtain ⟨rfl, rest⟩ := first (between _) (between _) same
          obtain ⟨eq, rest⟩ := ih (List.cons_ne_nil _ _) (List.cons_ne_nil _ _)
            (fun x mem y yMem => determined x (List.mem_cons_of_mem _ mem) y
              (List.mem_cons_of_mem _ yMem))
            (List.append_cancel_left rest)
          exact ⟨by rw [eq], rest⟩

end Reading

section Runs

/-! ## Runs -/

variable {sep : Char → Bool} {c d : Char} {cs word rest : List Char}

/-- A word: at least one character, and no separator. -/
structure IsRun (sep : Char → Bool) (word : List Char) : Prop where
  ne_nil : word ≠ []
  free : ∀ c ∈ word, sep c = false

theorem runs_cons_of_sep (separates : sep c = true) (rest : List Char) :
    runs sep (c :: rest) = runs sep rest := by
  rw [runs.eq_def]
  exact if_pos separates

theorem runs_cons_ne_nil (inside : sep c = false) (rest : List Char) :
    runs sep (c :: rest) ≠ [] := by
  rw [runs.eq_def]
  dsimp only
  rw [if_neg (by simp [inside])]
  split
  · split <;> simp
  · simp

/-- A character in front of a separator, or at the end of the text, is a word. -/
theorem runs_cons_of_ends (inside : sep c = false) (ends : ∀ d ∈ rest.head?, sep d = true) :
    runs sep (c :: rest) = [c] :: runs sep rest := by
  rw [runs.eq_def]
  dsimp only
  rw [if_neg (by simp [inside])]
  split
  · rename_i found
    rw [found, if_pos (ends _ rfl)]
  · rfl

/-- A character in front of another one belongs to the same word. -/
theorem exists_runs_cons (inside : sep c = false) (next : sep d = false) (rest : List Char) :
    ∃ word words, runs sep (d :: rest) = word :: words ∧
      runs sep (c :: d :: rest) = (c :: word) :: words := by
  obtain ⟨word, words, found⟩ := List.exists_cons_of_ne_nil (runs_cons_ne_nil next rest)
  refine ⟨word, words, found, ?_⟩
  rw [runs.eq_def]
  dsimp only
  rw [if_neg (by simp [inside]), found]
  simp [next]

/-- The first word of a text. -/
theorem runs_append_of_ends (run : IsRun sep word) (ends : ∀ d ∈ rest.head?, sep d = true) :
    runs sep (word ++ rest) = word :: runs sep rest := by
  obtain ⟨nonempty, free⟩ := run
  induction word with
  | nil => exact absurd rfl nonempty
  | cons c word ih =>
    rw [List.forall_mem_cons] at free
    cases word with
    | nil => exact runs_cons_of_ends free.1 ends
    | cons d word =>
      have later := ih (by simp) free.2
      obtain ⟨first, others, found, whole⟩ :=
        exists_runs_cons free.1 (free.2 d List.mem_cons_self) (word ++ rest)
      rw [List.cons_append] at later
      rw [List.cons_append, List.cons_append, whole]
      cases found.symm.trans later
      rfl

/-- No word crosses a separator. -/
theorem runs_append_sep (before : List Char) (separates : sep c = true) (after : List Char) :
    runs sep (before ++ c :: after) = runs sep before ++ runs sep after := by
  induction before with
  | nil => exact runs_cons_of_sep separates after
  | cons b before ih =>
    rw [List.cons_append]
    by_cases gap : sep b = true
    · rw [runs_cons_of_sep gap, runs_cons_of_sep gap, ih]
    have inside : sep b = false := by simpa using gap
    cases before with
    | nil =>
      have ends : ∀ d ∈ (c :: after).head?, sep d = true := by simpa using separates
      have last : ∀ d ∈ ([] : List Char).head?, sep d = true := by simp
      rw [List.nil_append, runs_cons_of_ends inside ends, runs_cons_of_ends inside last,
        runs_cons_of_sep separates]
      rfl
    | cons d before =>
      by_cases next : sep d = true
      · have ends (tail : List Char) : ∀ e ∈ (d :: tail).head?, sep e = true := by
          simpa using next
        rw [List.cons_append] at ih ⊢
        rw [runs_cons_of_ends inside (ends _), runs_cons_of_ends inside (ends _), ih]
        rfl
      · have next : sep d = false := by simpa using next
        obtain ⟨word, words, found, whole⟩ := exists_runs_cons inside next before
        obtain ⟨word', words', found', whole'⟩ :=
          exists_runs_cons inside next (before ++ c :: after)
        rw [List.cons_append, found', found] at ih
        obtain ⟨rfl, rfl⟩ := List.cons.inj ih
        rw [List.cons_append, whole', whole]
        rfl

theorem runs_append_of_seps {gap : List Char} (separate : ∀ c ∈ gap, sep c = true)
    (rest : List Char) : runs sep (gap ++ rest) = runs sep rest := by
  induction gap with
  | nil => rfl
  | cons c gap ih =>
    rw [List.forall_mem_cons] at separate
    rw [List.cons_append, runs_cons_of_sep separate.1, ih separate.2]

theorem runs_append_gap (before : List Char) {gap : List Char} (nonempty : gap ≠ [])
    (separate : ∀ c ∈ gap, sep c = true) (after : List Char) :
    runs sep (before ++ gap ++ after) = runs sep before ++ runs sep after := by
  cases gap with
  | nil => exact absurd rfl nonempty
  | cons c gap =>
    rw [List.forall_mem_cons] at separate
    rw [List.append_assoc, List.cons_append, runs_append_sep before separate.1,
      runs_append_of_seps separate.2]

theorem isRun_of_mem_runs (mem : word ∈ runs sep cs) : IsRun sep word := by
  induction cs generalizing word with
  | nil => exact nomatch mem
  | cons c cs ih =>
    by_cases gap : sep c = true
    · rw [runs_cons_of_sep gap] at mem
      exact ih mem
    have inside : sep c = false := by simpa using gap
    have single : IsRun sep [c] := ⟨by simp, by simpa using inside⟩
    cases cs with
    | nil =>
      rw [runs_cons_of_ends inside (by simp)] at mem
      cases List.mem_singleton.mp mem
      exact single
    | cons d cs =>
      by_cases next : sep d = true
      · rw [runs_cons_of_ends inside (by simpa using next)] at mem
        rcases List.mem_cons.mp mem with rfl | later
        · exact single
        · exact ih later
      · obtain ⟨first, words, found, whole⟩ := exists_runs_cons inside (by simpa using next) cs
        rw [found] at ih
        rw [whole] at mem
        rcases List.mem_cons.mp mem with rfl | later
        · refine ⟨by simp, List.forall_mem_cons.mpr ⟨inside, ?_⟩⟩
          exact (ih List.mem_cons_self).free
        · exact ih (List.mem_cons_of_mem _ later)

theorem runs_eq_nil_iff : runs sep cs = [] ↔ ∀ c ∈ cs, sep c = true := by
  induction cs with
  | nil => simp [runs]
  | cons c cs ih =>
    rw [List.forall_mem_cons, ← ih]
    by_cases gap : sep c = true
    · simp [runs_cons_of_sep gap, gap]
    · simp [runs_cons_ne_nil (by simpa using gap : sep c = false) cs, gap]

/-- The words have all characters of the text but the separators. -/
theorem flatten_runs (sep : Char → Bool) (cs : List Char) :
    (runs sep cs).flatten = cs.filter fun c => !sep c := by
  induction cs with
  | nil => rfl
  | cons c cs ih =>
    by_cases gap : sep c = true
    · rw [runs_cons_of_sep gap, ih, List.filter_cons_of_neg (by simp [gap])]
    have inside : sep c = false := by simpa using gap
    rw [List.filter_cons_of_pos (by simp [inside]), ← ih]
    cases cs with
    | nil =>
      rw [runs_cons_of_ends inside (by simp)]
      rfl
    | cons d cs =>
      by_cases next : sep d = true
      · rw [runs_cons_of_ends inside (by simpa using next)]
        rfl
      · obtain ⟨word, words, found, whole⟩ := exists_runs_cons inside (by simpa using next) cs
        rw [whole, found]
        rfl

/-- Words with separators between them are the words of the text. -/
theorem runs_intercalate {gap : List Char} (nonempty : gap ≠ [])
    (separate : ∀ c ∈ gap, sep c = true) (pieces : List (List Char)) :
    runs sep (gap.intercalate pieces) = pieces.flatMap (runs sep) := by
  induction pieces with
  | nil => rfl
  | cons piece rest ih =>
    cases rest with
    | nil => simp [List.intercalate_singleton]
    | cons second rest =>
      rw [List.intercalate_cons_cons, runs_append_gap piece nonempty separate, ih]
      rfl

theorem flatMap_runs {words : List (List Char)} (each : ∀ word ∈ words, IsRun sep word) :
    words.flatMap (runs sep) = words := by
  induction words with
  | nil => rfl
  | cons word rest ih =>
    rw [List.forall_mem_cons] at each
    have single : runs sep (word ++ []) = [word] := runs_append_of_ends each.1 (by simp)
    rw [List.append_nil] at single
    rw [List.flatMap_cons, single, ih each.2]
    rfl

/-- A text with its words is empty, a word, or two texts on both sides of a separator. -/
theorem runs_induction {motive : List Char → List (List Char) → Prop} (nil : motive [] [])
    (run : ∀ word, IsRun sep word → motive word [word])
    (split : ∀ before c after, sep c = true → motive before (runs sep before) →
      motive after (runs sep after) →
        motive (before ++ c :: after) (runs sep before ++ runs sep after))
    (cs : List Char) : motive cs (runs sep cs) := by
  -- by induction on the length; the text is divided at any of its separators
  by_cases separated : ∃ c ∈ cs, sep c = true
  · obtain ⟨c, mem, separates⟩ := separated
    obtain ⟨before, after, rfl⟩ := List.append_of_mem mem
    rw [runs_append_sep before separates]
    apply split before c after separates
    · exact runs_induction nil run split before
    · exact runs_induction nil run split after
  · have free : ∀ c ∈ cs, sep c = false := by simpa using separated
    by_cases empty : cs = []
    · rw [empty]
      exact nil
    · have single : runs sep (cs ++ []) = [cs] := runs_append_of_ends ⟨empty, free⟩ (by simp)
      rw [List.append_nil] at single
      rw [single]
      exact run cs ⟨empty, free⟩
termination_by cs.length

/-- Separators at the ends of a text do not count. -/
theorem runs_trimBy (sep : Char → Bool) (cs : List Char) :
    runs sep (trimBy sep cs) = runs sep cs := by
  obtain ⟨front, back, split, frontSeps, backSeps⟩ := exists_ends_trimBy sep cs
  conv_rhs => rw [split]
  rw [List.append_assoc, runs_append_of_seps frontSeps]
  cases back with
  | nil => rw [List.append_nil]
  | cons c back =>
    rw [List.forall_mem_cons] at backSeps
    rw [runs_append_sep _ backSeps.1, runs_eq_nil_iff.mpr backSeps.2, List.append_nil]

end Runs

section Paragraphs

/-! ## Paragraphs -/

variable {sep : Char → Bool} {piece cs : List Char}

theorem paragraphs_ne_nil (cs : List Char) : paragraphs cs ≠ [] := by
  fun_cases paragraphs cs <;> simp_all

/-- Paragraphs with a blank line between them are the text. -/
theorem intercalate_paragraphs (cs : List Char) :
    ['\n', '\n'].intercalate (paragraphs cs) = cs := by
  fun_induction paragraphs cs with
  | case1 => rfl
  | case2 rest ih =>
    rw [List.intercalate_cons_of_ne_nil (paragraphs_ne_nil rest), ih]
    rfl
  | case3 c rest _ piece pieces found ih =>
    rw [found] at ih
    rw [List.intercalate_cons_cons_left, ih]
  | case4 c rest _ found => exact absurd found (paragraphs_ne_nil rest)

/-- A text without a blank line is a single paragraph. -/
theorem paragraphs_eq_singleton_iff (cs : List Char) :
    paragraphs cs = [cs] ↔ ¬ ['\n', '\n'] <:+: cs := by
  constructor
  · fun_induction paragraphs cs with
    | case1 => simp
    | case2 rest ih => simp
    | case3 c rest noBreak piece pieces found ih =>
        intro single
        obtain ⟨same, rfl⟩ := List.cons.inj single
        obtain rfl := (List.cons.inj same).2
        rw [List.infix_cons_iff, not_or]
        constructor
        · rintro ⟨tail, starts⟩
          obtain ⟨first, second⟩ := List.cons.inj starts
          exact noBreak tail first.symm second.symm
        · exact ih found
    | case4 c rest _ found => exact absurd found (paragraphs_ne_nil rest)
  · intro unbroken
    have joined := intercalate_paragraphs cs
    obtain ⟨p, rest, pieces⟩ := List.exists_cons_of_ne_nil (paragraphs_ne_nil cs)
    rw [pieces] at joined ⊢
    cases rest with
    | nil =>
        rw [List.intercalate_singleton] at joined
        rw [joined]
    | cons q rest =>
        rw [List.intercalate_cons_cons] at joined
        exact absurd ⟨p, _, joined⟩ unbroken

/-- The words of a text are those of its paragraphs. -/
theorem flatMap_runs_paragraphs (separates : sep '\n' = true)
    (cs : List Char) : (paragraphs cs).flatMap (runs sep) = runs sep cs := by
  have separate : ∀ c ∈ ['\n', '\n'], sep c = true := by simpa using separates
  conv_rhs => rw [← intercalate_paragraphs cs]
  rw [runs_intercalate (by simp) separate]

/-- A text that begins with a word has a word in its first paragraph. -/
theorem runs_ne_nil_of_head? (separates : sep '\n' = true)
    (begins : ∃ c ∈ cs.head?, sep c = false) (first : (paragraphs cs).head? = some piece) :
    runs sep piece ≠ [] := by
  obtain ⟨back, text, gap⟩ := exists_intercalate_of_head? ['\n', '\n'] first
  rw [intercalate_paragraphs] at text
  obtain ⟨c, head, inside⟩ := begins
  rw [ne_eq, runs_eq_nil_iff]
  intro separate
  cases piece with
  | cons d piece =>
    rw [text] at head
    cases head
    rw [separate c List.mem_cons_self] at inside
    exact nomatch inside
  | nil =>
    rw [text, List.nil_append] at head
    rcases gap with rfl | ⟨more, rfl⟩
    · exact nomatch head
    · cases head
      rw [separates] at inside
      exact nomatch inside

/-- A text that ends with a word has a word in its last paragraph. -/
theorem runs_ne_nil_of_getLast? (separates : sep '\n' = true)
    (ends : ∃ c ∈ cs.getLast?, sep c = false) (last : (paragraphs cs).getLast? = some piece) :
    runs sep piece ≠ [] := by
  obtain ⟨front, text, gap⟩ := exists_intercalate_of_getLast? ['\n', '\n'] last
  rw [intercalate_paragraphs] at text
  obtain ⟨c, final, inside⟩ := ends
  rw [ne_eq, runs_eq_nil_iff]
  intro separate
  rcases List.eq_nil_or_concat piece with rfl | ⟨piece, d, rfl⟩
  · rw [text, List.append_nil] at final
    rcases gap with rfl | ⟨more, rfl⟩
    · exact nomatch final
    · simp only [List.getLast?_append, List.getLast?_cons_cons, List.getLast?_singleton,
        Option.some_or, Option.mem_some_iff] at final
      subst final
      rw [separates] at inside
      exact nomatch inside
  · simp only [text, List.concat_eq_append, List.getLast?_append, List.getLast?_singleton,
      Option.some_or, Option.mem_some_iff] at final
    subst final
    rw [separate d (by simp)] at inside
    exact nomatch inside

end Paragraphs

end ApiCompiler.Text
