import ApiCompiler.Casing
import ApiCompiler.Proofs.Text.Words

/-!
# The snake case of a name

A name is cut at each of its separators, and in front of each capital that begins a word. Its snake
case has an underscore at every cut and, between the cuts, the same characters in lower case. So
nothing of a name of ASCII is lost but case and the kind of its separators, two underscores are
neighbours exactly where two separators are, and the snake case of a snake case is itself.
-/

namespace ApiCompiler

namespace Text

/-- What holds of every character of ASCII. -/
theorem of_ascii {P : Char → Prop} (each : ∀ n < 0x80, P (Char.ofNat n)) {c : Char}
    (ascii : c.toNat < 0x80) : P c := by
  have here := each c.toNat ascii
  rwa [Char.ofNat_toNat] at here

/-- A text of ASCII. -/
def IsAscii (s : String) : Prop := ∀ c ∈ s.toList, c.toNat < 0x80

instance (s : String) : Decidable (IsAscii s) := List.decidableBAll _ _

theorem toLower_of_ascii {c : Char} (ascii : c.toNat < 0x80) : toLower c = c.toLower := by
  rw [toLower, if_pos ascii]

end Text

namespace Casing

open Text

variable {p next : Option Char} {c d : Char} {name front back u v : List Char}

theorem mem_of_mem_nameWords {word : List Char} (mem : word ∈ nameWords name) (inside : c ∈ word) :
    c ∈ name ∧ isSeparator c = false := by
  have kept : c ∈ name.filter fun c => !isSeparator c :=
    flatten_runs _ _ ▸ List.mem_flatten_of_mem mem inside
  simpa using List.mem_filter.mp kept

/-! ## Characters -/

/-- What snake case relies on of a character: its lower-case form is final, no capital, and a
separator only if the character is one; and no capital is a lower-case letter. -/
structure IsRegular (c : Char) : Prop where
  lower_lower : toLower (toLower c) = toLower c
  isUpper_lower : isUpper (toLower c) = false
  isSeparator_lower : isSeparator (toLower c) = isSeparator c
  isLower_of_isUpper : isUpper c = true → isLower c = false

theorem isRegular_of_ascii (ascii : c.toNat < 0x80) : IsRegular c := by
  have each : ∀ n < 0x80, let c := Char.ofNat n
      toLower (toLower c) = toLower c ∧ isUpper (toLower c) = false ∧
        isSeparator (toLower c) = isSeparator c ∧ (isUpper c = true → isLower c = false) := by
    decide +kernel
  refine of_ascii (fun n bound => ?_) ascii
  obtain ⟨lower_lower, isUpper_lower, isSeparator_lower, isLower_of_isUpper⟩ := each n bound
  exact ⟨lower_lower, isUpper_lower, isSeparator_lower, isLower_of_isUpper⟩

theorem IsRegular.lower_ne_underscore (regular : IsRegular c) (plain : isSeparator c = false) :
    toLower c ≠ '_' := by
  intro same
  have separates := regular.isSeparator_lower
  rw [same, plain] at separates
  exact nomatch separates

theorem isLower_of_isSeparator (separates : isSeparator c = true) : isLower c = false := by
  have known : ((c = '_' ∨ c = '-') ∨ c = '.') ∨ c = ' ' := by simpa [isSeparator] using separates
  rcases known with ((rfl | rfl) | rfl) | rfl <;> rfl

/-- A word begins at a capital behind another character; behind a capital, only if a lower-case
letter comes next. -/
def BeginsWord (previous : Option Char) (c : Char) (next : Option Char) : Prop :=
  isUpper c = true ∧ ∃ p ∈ previous, isSeparator p = false ∧
    (isUpper p = false ∨ next.any isLower = true)

/-- The ways in which a character is written. -/
inductive Spells (p : Option Char) (c : Char) (next : Option Char) : List Char → Prop where
  | separator (separates : isSeparator c = true) : Spells p c next ['_']
  | word (plain : isSeparator c = false) (begins : BeginsWord p c next) :
      Spells p c next ['_', toLower c]
  | inside (plain : isSeparator c = false) (free : ¬BeginsWord p c next) :
      Spells p c next [toLower c]

theorem spells_snakeChar (p : Option Char) (c : Char) (next : Option Char) :
    Spells p c next (snakeChar p c next) := by
  unfold snakeChar
  split
  case isTrue separates => exact .separator separates
  case isFalse plain =>
      have plain : isSeparator c = false := by simpa using plain
      cases p with
      | none => exact .inside plain fun ⟨_, _, behind, _⟩ => nomatch behind
      | some p =>
          have begins_iff : (isUpper c && !isSeparator p && (!isUpper p || next.any isLower)) =
              true ↔ BeginsWord (some p) c next := by
            simp [BeginsWord, and_assoc]
          dsimp only
          split
          case isTrue begins => exact .word plain (begins_iff.mp begins)
          case isFalse free => exact .inside plain fun begins => free (begins_iff.mpr begins)

/-- The only underscore of what a character becomes stands in front. -/
theorem Spells.split (spells : Spells p c next (u ++ '_' :: v)) (regular : IsRegular c) :
    u = [] ∧ (isSeparator c = true ∧ v = [] ∨
      isSeparator c = false ∧ BeginsWord p c next ∧ v = [toLower c]) := by
  generalize same : u ++ '_' :: v = text at spells
  cases spells with
  | separator separates =>
      obtain ⟨rfl, rfl⟩ : u = [] ∧ v = [] := by simpa [List.append_eq_singleton_iff] using same
      exact ⟨rfl, .inl ⟨separates, rfl⟩⟩
  | word plain begins =>
      have apart := regular.lower_ne_underscore plain
      cases u with
      | nil => exact ⟨rfl, .inr ⟨plain, begins, (List.cons.inj same).2⟩⟩
      | cons d u =>
          have last : '_' ∈ [toLower c] := by simp [← (List.cons.inj same).2]
          exact absurd (List.mem_singleton.mp last).symm apart
  | inside plain free =>
      have only : '_' ∈ [toLower c] := by simp [← same]
      exact absurd (List.mem_singleton.mp only).symm (regular.lower_ne_underscore plain)

/-- Of what comes next it only counts whether it is a lower-case letter. -/
theorem snakeChar_congr {next next' : Option Char} (same : next.any isLower = next'.any isLower) :
    snakeChar p c next = snakeChar p c next' := by
  unfold snakeChar
  rw [same]

theorem snakeFrom_cons (p : Option Char) (c : Char) (rest : List Char) :
    snakeFrom p (c :: rest) = snakeChar p c rest.head? ++ snakeFrom (some c) rest :=
  rfl

/-! ## Characters of the snake case -/

/-- The snake case holds underscores and the lower-case forms of all other characters. -/
theorem mem_snakeFrom (mem : d ∈ snakeFrom p name) :
    d = '_' ∨ ∃ c ∈ name, isSeparator c = false ∧ d = toLower c := by
  induction name generalizing p with
  | nil => exact nomatch mem
  | cons c rest ih =>
      rcases List.mem_append.mp mem with here | later
      · generalize written : snakeChar p c rest.head? = text at here
        cases written ▸ spells_snakeChar p c rest.head? with
        | separator separates => exact .inl (List.mem_singleton.mp here)
        | word plain begins =>
            rcases List.mem_cons.mp here with mark | here
            · exact .inl mark
            · exact .inr ⟨c, List.mem_cons_self, plain, List.mem_singleton.mp here⟩
        | inside plain free =>
            exact .inr ⟨c, List.mem_cons_self, plain, List.mem_singleton.mp here⟩
      · exact (ih later).imp_right fun ⟨c, mem, rest⟩ => ⟨c, List.mem_cons_of_mem _ mem, rest⟩

/-- Without its underscores the snake case is the name in lower case without its separators. -/
theorem filter_snakeFrom (regular : ∀ c ∈ name, IsRegular c) :
    (snakeFrom p name).filter (· != '_') =
      (name.filter fun c => !isSeparator c).map toLower := by
  induction name generalizing p with
  | nil => rfl
  | cons c rest ih =>
      rw [List.forall_mem_cons] at regular
      rw [snakeFrom, List.filter_append, ih regular.2]
      generalize written : snakeChar p c rest.head? = text
      cases written ▸ spells_snakeChar p c rest.head? with
      | separator separates => simp [separates]
      | word plain begins => simp [plain, regular.1.lower_ne_underscore plain]
      | inside plain free => simp [plain, regular.1.lower_ne_underscore plain]

/-- A name without capitals whose only separators are underscores is its own snake case. -/
theorem snakeFrom_eq_self
    (normal : ∀ c ∈ name, toLower c = c ∧ isUpper c = false ∧ (isSeparator c = true → c = '_')) :
    snakeFrom p name = name := by
  induction name generalizing p with
  | nil => rfl
  | cons c rest ih =>
      rw [List.forall_mem_cons] at normal
      obtain ⟨⟨lower, small, underscore⟩, normal⟩ := normal
      rw [snakeFrom, ih normal]
      generalize written : snakeChar p c rest.head? = text
      cases written ▸ spells_snakeChar p c rest.head? with
      | separator separates => rw [underscore separates, List.singleton_append]
      | word plain begins => exact nomatch small.symm.trans begins.1
      | inside plain free => rw [lower, List.singleton_append]

/-! ## Cuts -/

/-- A name behind a character, cut in two: at a separator, or in front of a word. -/
inductive Cut (p : Option Char) : List Char → List Char → List Char → Prop where
  | separator (front back : List Char) {c : Char} (separates : isSeparator c = true) :
      Cut p (front ++ c :: back) front back
  | word (front back : List Char) {c : Char} (plain : isSeparator c = false)
      (begins : BeginsWord (front.getLast?.or p) c back.head?) :
      Cut p (front ++ c :: back) front (c :: back)

theorem getLast?_cons_or (c : Char) (rest : List Char) (p : Option Char) :
    (c :: rest).getLast?.or p = rest.getLast?.or (some c) := by
  rw [List.getLast?_cons]
  cases rest.getLast? <;> rfl

theorem cut_cons_iff : Cut p name (c :: front) back ↔
    ∃ rest, name = c :: rest ∧ Cut (some c) rest front back := by
  constructor
  · intro cut
    cases cut with
    | separator _ _ separates => exact ⟨_, rfl, .separator front back separates⟩
    | word _ back plain begins =>
        exact ⟨_, rfl, .word front back plain (by rwa [getLast?_cons_or] at begins)⟩
  · rintro ⟨rest, rfl, cut⟩
    cases cut with
    | separator _ _ separates => exact .separator (c :: front) back separates
    | word _ back plain begins =>
        exact .word (c :: front) back plain (by rwa [getLast?_cons_or])

/-- Behind a cut stands no lower-case letter, which the word in front of it would notice. -/
theorem any_isLower_of_cut (regular : ∀ c ∈ name, IsRegular c) (cut : Cut p name front back) :
    name.head?.any isLower = front.head?.any isLower := by
  cases front with
  | cons c rest =>
      obtain ⟨_, rfl, -⟩ := cut_cons_iff.mp cut
      rfl
  | nil =>
      cases cut with
      | separator _ _ separates => exact isLower_of_isSeparator separates
      | word _ back plain begins =>
          exact (regular _ List.mem_cons_self).isLower_of_isUpper begins.1

/-- Behind a separator a name is written as at its beginning. -/
theorem snakeFrom_of_isSeparator (separates : isSeparator c = true) (name : List Char) :
    snakeFrom (some c) name = snakeFrom none name := by
  cases name with
  | nil => rfl
  | cons d rest => simp [snakeFrom, snakeChar, separates]

theorem snakeFrom_cons_of_isSeparator (separates : isSeparator c = true) (rest : List Char) :
    snakeFrom p (c :: rest) = '_' :: snakeFrom none rest := by
  have mark : snakeChar p c rest.head? = ['_'] := if_pos separates
  rw [snakeFrom_cons, mark, snakeFrom_of_isSeparator separates, List.singleton_append]

/-- At the beginning of a name no word is set apart. -/
theorem snakeFrom_none_cons (plain : isSeparator c = false) (rest : List Char) :
    snakeFrom none (c :: rest) = toLower c :: snakeFrom (some c) rest := by
  simp [snakeFrom, snakeChar, plain]

theorem snakeFrom_eq_nil_iff : snakeFrom p name = [] ↔ name = [] := by
  cases name with
  | nil => exact iff_of_true rfl rfl
  | cons c rest =>
      refine iff_of_false (fun empty => ?_) (List.cons_ne_nil c rest)
      exact nomatch (List.append_eq_nil_iff.mp empty).1 ▸ spells_snakeChar p c rest.head?

/-- At a cut stands an underscore, and both parts are written as names of their own. -/
theorem snakeFrom_of_cut (regular : ∀ c ∈ name, IsRegular c) (cut : Cut p name front back) :
    snakeFrom p name = snakeFrom p front ++ '_' :: snakeFrom none back := by
  induction front generalizing p name with
  | nil =>
      cases cut with
      | separator _ _ separates => exact snakeFrom_cons_of_isSeparator separates back
      | @word _ back c plain begins =>
          have mark : snakeChar p c back.head? = ['_', toLower c] := by
            generalize written : snakeChar p c back.head? = text
            cases written ▸ spells_snakeChar p c back.head? with
            | separator separates => exact nomatch plain.symm.trans separates
            | word => rfl
            | inside _ free => exact absurd begins free
          rw [List.nil_append, snakeFrom_cons, mark, snakeFrom_none_cons plain]
          rfl
  | cons c front ih =>
      obtain ⟨rest, rfl, behind⟩ := cut_cons_iff.mp cut
      have others := (List.forall_mem_cons.mp regular).2
      rw [snakeFrom_cons, ih others behind, snakeFrom_cons,
        snakeChar_congr (any_isLower_of_cut others behind), List.append_assoc]

/-- Every underscore stands at a cut. -/
theorem exists_cut_of_snakeFrom (regular : ∀ c ∈ name, IsRegular c)
    (split : snakeFrom p name = u ++ '_' :: v) : ∃ front back, Cut p name front back ∧
      snakeFrom p front = u ∧ snakeFrom none back = v := by
  induction name generalizing p u with
  | nil => simp [snakeFrom] at split
  | cons c rest ih =>
      rw [List.forall_mem_cons] at regular
      -- the underscore is one of what `c` becomes, or it stands behind
      rw [snakeFrom_cons, List.append_eq_append_iff] at split
      have behind {u' : List Char} (here : u = snakeChar p c rest.head? ++ u')
          (split : snakeFrom (some c) rest = u' ++ '_' :: v) : ∃ front back,
            Cut p (c :: rest) front back ∧ snakeFrom p front = u ∧ snakeFrom none back = v := by
        obtain ⟨front, back, cut, same, tail⟩ := ih regular.2 split
        refine ⟨c :: front, back, cut_cons_iff.mpr ⟨rest, rfl, cut⟩, ?_, tail⟩
        rw [here, snakeFrom_cons, same, snakeChar_congr (any_isLower_of_cut regular.2 cut)]
      rcases split with ⟨u', here, split⟩ | ⟨tail, here, split⟩
      · exact behind here split
      · cases tail with
        | nil =>
            have whole : u = snakeChar p c rest.head? ++ [] := by simp [here]
            exact behind whole split.symm
        | cons d tail =>
            obtain ⟨rfl, rfl⟩ := List.cons.inj split
            have spells := here ▸ spells_snakeChar p c rest.head?
            obtain ⟨rfl, ⟨separates, rfl⟩ | ⟨plain, begins, rfl⟩⟩ := spells.split regular.1
            · refine ⟨[], rest, .separator [] rest separates, rfl, ?_⟩
              exact (snakeFrom_of_isSeparator separates rest).symm
            · exact ⟨[], c :: rest, .word [] rest plain begins, rfl, snakeFrom_none_cons plain rest⟩

/-- The underscores of the snake case are the cuts of the name. -/
theorem snakeFrom_eq_append_iff (regular : ∀ c ∈ name, IsRegular c) :
    snakeFrom p name = u ++ '_' :: v ↔ ∃ front back, Cut p name front back ∧
      snakeFrom p front = u ∧ snakeFrom none back = v := by
  constructor
  · exact exists_cut_of_snakeFrom regular
  · rintro ⟨front, back, cut, rfl, rfl⟩
    exact snakeFrom_of_cut regular cut

/-- Two underscores are neighbours where two separators are. -/
theorem snakeFrom_eq_append_pair_iff (regular : ∀ c ∈ name, IsRegular c) :
    snakeFrom none name = u ++ '_' :: '_' :: v ↔ ∃ front back x y,
      name = front ++ x :: y :: back ∧ isSeparator x = true ∧ isSeparator y = true ∧
        snakeFrom none front = u ∧ snakeFrom none back = v := by
  rw [snakeFrom_eq_append_iff regular]
  constructor
  · rintro ⟨front, back, cut, same, tail⟩
    cases cut with
    | separator _ _ first =>
        have others : ∀ c ∈ back, IsRegular c := fun c mem => regular c (by simp [mem])
        obtain ⟨gap, rest, cut, empty, ending⟩ := exists_cut_of_snakeFrom (u := []) others tail
        obtain rfl := snakeFrom_eq_nil_iff.mp empty
        cases cut with
        | separator _ _ second => exact ⟨front, rest, _, _, rfl, first, second, same, ending⟩
        | word _ _ plain begins => exact nomatch begins.2
    | @word _ back c plain begins =>
        -- a word begins with a letter, not with the second underscore
        rw [snakeFrom_none_cons plain] at tail
        have apart := (regular c (by simp)).lower_ne_underscore plain
        exact absurd (List.cons.inj tail).1 apart
  · rintro ⟨front, back, x, y, rfl, first, second, same, tail⟩
    refine ⟨front, y :: back, .separator front (y :: back) first, same, ?_⟩
    rw [snakeFrom_cons_of_isSeparator second, tail]

/-! ## Texts -/

/-- The cuts of a name. -/
def IsCut (name front back : String) : Prop := Cut none name.toList front.toList back.toList

theorem toList_snake (s : String) : (snake s).toList = snakeFrom none s.toList :=
  String.toList_ofList

theorem snake_eq_iff {s t : String} : snake s = t ↔ snakeFrom none s.toList = t.toList := by
  rw [← String.toList_inj, toList_snake]

/-- The snake case of a name of ASCII has no capital and no separator but the underscore. Without
its underscores it is the name without its separators in lower case. Two underscores are neighbours
in it exactly where two separators are in the name, and it is its own snake case. Its underscores
stand exactly at the cuts of the name: at the separators, and in front of words. -/
theorem snake_exact {s : String} (ascii : IsAscii s) :
    (∀ c ∈ (snake s).toList, isUpper c = false ∧ (isSeparator c = true → c = '_')) ∧
    (snake s).toList.filter (· != '_') =
      (s.toList.filter fun c => !isSeparator c).map Char.toLower ∧
    (∀ u v, snake s = u ++ "__" ++ v ↔ ∃ front back x y,
      s = front ++ String.ofList [x, y] ++ back ∧ isSeparator x = true ∧ isSeparator y = true ∧
        snake front = u ∧ snake back = v) ∧
    snake (snake s) = snake s ∧
    ∀ u v, snake s = u ++ "_" ++ v ↔ ∃ front back, IsCut s front back ∧
      snake front = u ∧ snake back = v := by
  have regular : ∀ c ∈ s.toList, IsRegular c := fun c mem => isRegular_of_ascii (ascii c mem)
  have normal : ∀ d ∈ (snake s).toList,
      toLower d = d ∧ isUpper d = false ∧ (isSeparator d = true → d = '_') := by
    intro d mem
    rw [toList_snake] at mem
    rcases mem_snakeFrom mem with rfl | ⟨c, inside, plain, rfl⟩
    · exact ⟨rfl, rfl, fun _ => rfl⟩
    · have lower := regular c inside
      refine ⟨lower.lower_lower, lower.isUpper_lower, fun separates => ?_⟩
      exact nomatch plain.symm.trans (lower.isSeparator_lower.symm.trans separates)
  have texts : Function.Surjective String.toList := fun cs => ⟨.ofList cs, String.toList_ofList⟩
  refine ⟨fun c mem => (normal c mem).2, ?letters, fun u v => ?pairs, ?again, fun u v => ?cuts⟩
  case letters =>
    rw [toList_snake, filter_snakeFrom regular]
    refine List.map_congr_left fun c mem => ?_
    exact toLower_of_ascii (ascii c (List.mem_of_mem_filter mem))
  case pairs =>
    have spelled : (u ++ "__" ++ v).toList = u.toList ++ '_' :: '_' :: v.toList := by simp
    rw [snake_eq_iff, spelled, snakeFrom_eq_append_pair_iff regular, texts.exists₂]
    simp [← String.toList_inj, toList_snake]
  case again => rw [snake_eq_iff, snakeFrom_eq_self normal]
  case cuts =>
    have spelled : (u ++ "_" ++ v).toList = u.toList ++ '_' :: v.toList := by simp
    rw [snake_eq_iff, spelled, snakeFrom_eq_append_iff regular, texts.exists₂]
    simp [← String.toList_inj, toList_snake, IsCut]

/-- A run of capitals is one word, and two points in a row leave two underscores. -/
theorem snake_exact_connection :
    let s := "HTTPSConnection-v2..UserID"
    IsAscii s ∧ snake s = "https_connection_v2__user_id" ∧ snake (snake s) = snake s ∧
      (∃ front back, IsCut s front back ∧
        snake front = "https" ∧ snake back = "connection_v2__user_id") ∧
      ∃ front back x y, s = front ++ String.ofList [x, y] ++ back ∧
        isSeparator x = true ∧ isSeparator y = true ∧
        snake front = "https_connection_v2" ∧ snake back = "user_id" := by
  intro s
  have ascii : IsAscii s := by decide
  have written : snake s = "https_connection_v2__user_id" := by decide
  obtain ⟨-, -, pairs, again, cuts⟩ := snake_exact ascii
  refine ⟨ascii, written, again, (cuts _ _).mp ?_, (pairs _ _).mp ?_⟩
  · exact written
  · exact written

end Casing

end ApiCompiler
