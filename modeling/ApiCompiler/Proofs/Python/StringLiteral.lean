import ApiCompiler.Proofs.Text
import Mathlib.Data.List.DropRight
import Mathlib.Data.Prod.Basic

/-!
# String literals in double quotes

Where a literal of Python ends and what it stands for. A literal is delimited by one quote or by
three; a backslash escapes the next character, so that neither belongs to a delimiter. Behind the
backslash some characters begin an escape and all others stay with it, so a literal stands for its
own text exactly if every backslash in it is followed by one of those others.
-/

namespace ApiCompiler.Python

/-! ## Where a literal ends -/

/-- A delimiter of literals in double quotes. -/
inductive Delimiter where
  | one
  | three
deriving DecidableEq

/-- The quotes of a delimiter. -/
def Delimiter.quotes : Delimiter → List Char
  | one => ['"']
  | three => ['"', '"', '"']

/-- A character at which a line of source text ends. -/
def endsLine (c : Char) : Bool := c == '\n' || c == '\r'

/-- What stands between the delimiters of a literal and what follows it, behind the first of them. A
literal in single quotes does not go on in the next line. -/
def Delimiter.close? (d : Delimiter) : List Char → Option (List Char × List Char)
  | '\\' :: c :: rest => (d.close? rest).map fun (body, after) => ('\\' :: c :: body, after)
  | c :: rest =>
    if d.quotes.isPrefixOf (c :: rest) then some ([], (c :: rest).drop d.quotes.length)
    else if d = .one ∧ endsLine c = true then none
    else (d.close? rest).map fun (body, after) => (c :: body, after)
  | [] => none

/-- A literal at the beginning of a text: what stands between its delimiters, and what follows
it. -/
def literal? : List Char → Option (List Char × List Char)
  | '"' :: '"' :: '"' :: rest => Delimiter.three.close? rest
  | '"' :: rest => Delimiter.one.close? rest
  | _ => none

/-- Induction over a text in the way a literal is read: a backslash goes with the character behind
it. -/
@[elab_as_elim]
theorem literal_induction {motive : List Char → Prop} (nil : motive [])
    (backslash : motive ['\\'])
    (escape : ∀ c cs, motive cs → motive ('\\' :: c :: cs))
    (plain : ∀ c cs, c ≠ '\\' → motive cs → motive (c :: cs)) :
    (cs : List Char) → motive cs
  | [] => nil
  | [c] => by
      by_cases escapes : c = '\\'
      · rw [escapes]
        exact backslash
      · exact plain c [] escapes nil
  | c :: d :: cs => by
      by_cases escapes : c = '\\'
      · rw [escapes]
        exact escape d cs (literal_induction nil backslash escape plain cs)
      · exact plain c (d :: cs) escapes (literal_induction nil backslash escape plain (d :: cs))

namespace Delimiter

variable {d : Delimiter} {c : Char} {cs body rest after : List Char}

theorem close?_escape (d : Delimiter) (c : Char) (rest : List Char) :
    d.close? ('\\' :: c :: rest) =
      (d.close? rest).map fun (body, after) => ('\\' :: c :: body, after) := by
  rw [close?]

theorem close?_cons (other : c ≠ '\\') (d : Delimiter) (rest : List Char) :
    d.close? (c :: rest) =
      if d.quotes.isPrefixOf (c :: rest) then some ([], (c :: rest).drop d.quotes.length)
      else if d = .one ∧ endsLine c = true then none
      else (d.close? rest).map fun (body, after) => (c :: body, after) := by
  rw [close?]
  exact fun _ _ same _ => absurd same other

/-- A literal with its delimiter is what was read. -/
theorem eq_append_of_close? (closed : d.close? cs = some (body, after)) :
    cs = body ++ (d.quotes ++ after) := by
  fun_induction close? d cs generalizing body with
  | case1 c rest ih =>
      obtain ⟨⟨inner, _⟩, later, same⟩ := Option.map_eq_some_iff.mp closed
      cases same
      rw [ih later]
      rfl
  | case2 c rest _ closes =>
      cases closed
      obtain ⟨tail, starts⟩ := List.isPrefixOf_iff_prefix.mp closes
      rw [← starts, List.drop_left, List.nil_append]
  | case3 => exact nomatch closed
  | case4 c rest _ _ _ ih =>
      obtain ⟨⟨inner, _⟩, later, same⟩ := Option.map_eq_some_iff.mp closed
      cases same
      rw [ih later]
      rfl
  | case5 => exact nomatch closed

/-- No literal ends inside a text, and behind it the reading goes on as it began, whatever
follows. -/
def Passes (d : Delimiter) (cs : List Char) : Prop :=
  ∀ rest, d.close? (cs ++ rest) = (d.close? rest).map fun (body, after) => (cs ++ body, after)

theorem close?_quotes (d : Delimiter) (rest : List Char) :
    d.close? (d.quotes ++ rest) = some ([], rest) := by
  cases d
  all_goals
    rw [quotes, List.cons_append, close?_cons (by decide), if_pos (by simp [quotes])]
    rfl

/-- A literal whose body passes ends behind it. -/
theorem Passes.close? (passes : d.Passes body) (after : List Char) :
    d.close? (body ++ (d.quotes ++ after)) = some (body, after) := by
  rw [passes, close?_quotes]
  simp

/-- A text that passes may be taken off the body of a literal. -/
theorem Passes.close?_append_iff (passes : d.Passes cs) :
    d.close? (cs ++ rest) = some (cs ++ body, after) ↔ d.close? rest = some (body, after) := by
  have onto : Function.Injective fun r : List Char × List Char => (cs ++ r.1, r.2) :=
    (List.append_right_injective cs).prodMap Function.injective_id
  rw [passes]
  exact (Option.map_injective onto).eq_iff (b := some (body, after))

theorem passes_nil (d : Delimiter) : d.Passes [] := by
  intro rest
  simp

theorem Passes.append {ds : List Char} (first : d.Passes cs) (second : d.Passes ds) :
    d.Passes (cs ++ ds) := by
  intro rest
  rw [List.append_assoc, first, second, Option.map_map]
  simp [Function.comp_def]

theorem Passes.flatMap {α : Type} {f : α → List Char} {items : List α}
    (each : ∀ a ∈ items, d.Passes (f a)) : d.Passes (items.flatMap f) := by
  induction items with
  | nil => exact passes_nil d
  | cons a items ih =>
      rw [List.forall_mem_cons] at each
      exact each.1.append (ih each.2)

theorem passes_escape (d : Delimiter) (c : Char) : d.Passes ['\\', c] := by
  intro rest
  rw [List.cons_append, List.singleton_append, close?_escape]
  rfl

/-- A character that is neither a backslash nor the beginning of a delimiter. -/
theorem close?_of_not_begins (other : c ≠ '\\') (opens : ¬ d.quotes <+: c :: rest)
    (inside : d = .three ∨ endsLine c = false) :
    d.close? (c :: rest) = (d.close? rest).map fun (body, after) => (c :: body, after) := by
  rw [close?_cons other, if_neg (mt List.isPrefixOf_iff_prefix.mp opens), if_neg]
  rintro ⟨rfl, ends⟩
  rcases inside with three | line
  · exact absurd three (by decide)
  · rw [line] at ends
    exact absurd ends Bool.false_ne_true

theorem not_begins (different : c ≠ '"') : ¬ d.quotes <+: c :: rest := by
  rintro ⟨tail, starts⟩
  cases d
  all_goals exact different (List.cons.inj starts).1.symm

theorem passes_singleton (other : c ≠ '\\') (quote : c ≠ '"')
    (inside : d = .three ∨ endsLine c = false) : d.Passes [c] := by
  intro rest
  rw [List.singleton_append, close?_of_not_begins other (not_begins quote) inside]
  rfl

theorem one_passes_blank : one.Passes [' '] :=
  passes_singleton (by decide) (by decide) (.inr rfl)

/-- A text without quotes and backslashes. -/
theorem three_passes_of_plain (plain : ∀ c ∈ cs, c ≠ '\\' ∧ c ≠ '"') : three.Passes cs := by
  rw [← List.flatMap_singleton' cs]
  exact Passes.flatMap fun c mem => passes_singleton (plain c mem).1 (plain c mem).2 (.inl rfl)

end Delimiter

/-! ## What a literal stands for -/

/-- The characters behind a backslash, each with the one that both stand for. -/
def escapeLetters : List (Char × Char) :=
  [('\\', '\\'), ('\'', '\''), ('"', '"'), ('a', '\x07'), ('b', '\x08'), ('f', '\x0c'),
    ('n', '\n'), ('r', '\r'), ('t', '\t'), ('v', '\x0b')]

/-- The characters that announce a code point, with the number of its hexadecimal digits. -/
def codeWidths : List (Char × Nat) := [('x', 2), ('u', 4), ('U', 8)]

/-- The digits of a code point in octal. -/
def octalDigits : List Char := ['0', '1', '2', '3', '4', '5', '6', '7']

/-- The characters that a backslash in front of them makes an escape with. -/
def announcers : List Char :=
  ['\n', '\r', 'N'] ++ escapeLetters.map (·.1) ++ codeWidths.map (·.1) ++ octalDigits

/-- The value of a hexadecimal digit. -/
def hexDigitValue? (c : Char) : Option Nat :=
  if '0' ≤ c ∧ c ≤ '9' then some (c.toNat - '0'.toNat)
  else if 'a' ≤ c ∧ c ≤ 'f' then some (c.toNat - 'a'.toNat + 10)
  else if 'A' ≤ c ∧ c ≤ 'F' then some (c.toNat - 'A'.toNat + 10)
  else none

/-- The number that hexadecimal digits write. -/
def hexNumber? (digits : List Char) : Option Nat :=
  digits.foldlM (fun n c => (hexDigitValue? c).map (16 * n + ·)) 0

/-- What stands between the delimiters of a literal, with the characters that it stands for. The
characters that have a name are given by a table. -/
inductive Evaluates (named : List Char → Option Char) : List Char → List Char → Prop
  | nil : Evaluates named [] []
  | plain {c body cs} (other : c ≠ '\\') (rest : Evaluates named body cs) :
      Evaluates named (c :: body) (c :: cs)
  | joined {c body cs} (breaks : endsLine c = true) (rest : Evaluates named body cs) :
      Evaluates named ('\\' :: c :: body) cs
  | letter {code c body cs} (mem : (code, c) ∈ escapeLetters) (rest : Evaluates named body cs) :
      Evaluates named ('\\' :: code :: body) (c :: cs)
  | octal {digit digits body cs} (octal : ∀ c ∈ digit :: digits, c ∈ octalDigits)
      (short : digits.length ≤ 2)
      (longest : digits.length = 2 ∨ ∀ c ∈ body.head?, c ∉ octalDigits)
      (rest : Evaluates named body cs) :
      Evaluates named ('\\' :: digit :: (digits ++ body))
        (Char.ofNat (Nat.ofDigitChars 8 (digit :: digits) 0) :: cs)
  | code {announcer width digits n body cs} (mem : (announcer, width) ∈ codeWidths)
      (all : digits.length = width) (number : hexNumber? digits = some n) (valid : n.isValidChar)
      (rest : Evaluates named body cs) :
      Evaluates named ('\\' :: announcer :: (digits ++ body)) (Char.ofNat n :: cs)
  | name {name c body cs} (inside : '\x7d' ∉ name) (found : named name = some c)
      (rest : Evaluates named body cs) :
      Evaluates named ('\\' :: 'N' :: '\x7b' :: (name ++ '\x7d' :: body)) (c :: cs)
  | kept {c body cs} (ordinary : c ∉ announcers) (rest : Evaluates named body cs) :
      Evaluates named ('\\' :: c :: body) ('\\' :: c :: cs)

/-- No backslash begins an escape: each is followed by a character that stays with it. -/
def KeepsBackslashes (cs : List Char) : Prop :=
  ∀ front back, cs = front ++ '\\' :: back → ∃ c ∈ back.head?, c ∉ announcers

section Values

variable {named : List Char → Option Char} {c : Char} {cs body value rest : List Char}

theorem keepsBackslashes_nil : KeepsBackslashes [] := by
  intro front back split
  cases front <;> exact nomatch split

theorem keepsBackslashes_cons_iff : KeepsBackslashes (c :: cs) ↔
    (c = '\\' → ∃ d ∈ cs.head?, d ∉ announcers) ∧ KeepsBackslashes cs := by
  constructor
  · intro keeps
    constructor
    · rintro rfl
      exact keeps [] cs rfl
    · intro front back split
      exact keeps (c :: front) back (by rw [split]; rfl)
  · rintro ⟨first, others⟩ front back split
    cases front with
    | nil =>
        obtain ⟨rfl, rfl⟩ := List.cons.inj split
        exact first rfl
    | cons b front =>
        obtain ⟨-, rfl⟩ := List.cons.inj split
        exact others front back rfl

instance decidableKeepsBackslashes : (cs : List Char) → Decidable (KeepsBackslashes cs)
  | [] => .isTrue keepsBackslashes_nil
  | _ :: cs =>
    have : Decidable (∃ d ∈ cs.head?, d ∉ announcers) := cs.head?.decidableExistsMem
    have := decidableKeepsBackslashes cs
    decidable_of_iff _ keepsBackslashes_cons_iff.symm

theorem KeepsBackslashes.escaped (keeps : KeepsBackslashes ('\\' :: c :: rest)) :
    c ∉ announcers ∧ KeepsBackslashes rest := by
  obtain ⟨first, others⟩ := keepsBackslashes_cons_iff.mp keeps
  obtain ⟨d, head, ordinary⟩ := first rfl
  cases head
  exact ⟨ordinary, (keepsBackslashes_cons_iff.mp others).2⟩

theorem keepsBackslashes_of_kept (ordinary : c ∉ announcers) (keeps : KeepsBackslashes rest) :
    KeepsBackslashes ('\\' :: c :: rest) := by
  have different : c ≠ '\\' := by
    rintro rfl
    exact ordinary (by decide)
  apply keepsBackslashes_cons_iff.mpr
  constructor
  · exact fun _ => ⟨c, rfl, ordinary⟩
  · exact keepsBackslashes_cons_iff.mpr ⟨fun same => absurd same different, keeps⟩

/-- Induction over a text whose backslashes stay: it consists of characters that are no backslash,
and of backslashes with an ordinary character behind them. -/
@[elab_as_elim]
theorem KeepsBackslashes.induction {motive : List Char → Prop} (nil : motive [])
    (plain : ∀ c cs, c ≠ '\\' → motive cs → motive (c :: cs))
    (kept : ∀ c cs, c ∉ announcers → motive cs → motive ('\\' :: c :: cs))
    (keeps : KeepsBackslashes cs) : motive cs := by
  induction cs using literal_induction with
  | nil => exact nil
  | backslash =>
      obtain ⟨d, head, -⟩ := (keepsBackslashes_cons_iff.mp keeps).1 rfl
      exact nomatch head
  | escape c cs ih => exact kept c cs keeps.escaped.1 (ih keeps.escaped.2)
  | plain c cs other ih => exact plain c cs other (ih (keepsBackslashes_cons_iff.mp keeps).2)

/-- Every escape stands for less than its text. -/
theorem Evaluates.length_le (value : Evaluates named body cs) :
    cs.length ≤ body.length ∧ (cs.length = body.length → KeepsBackslashes body) := by
  induction value with
  | nil => exact ⟨Nat.le_refl _, fun _ => keepsBackslashes_nil⟩
  | plain other _ ih =>
      simp only [List.length_cons]
      refine ⟨Nat.succ_le_succ ih.1, fun same => ?_⟩
      exact keepsBackslashes_cons_iff.mpr ⟨fun same => absurd same other, ih.2 (by omega)⟩
  | kept ordinary _ ih =>
      simp only [List.length_cons]
      refine ⟨by omega, fun same => ?_⟩
      exact keepsBackslashes_of_kept ordinary (ih.2 (by omega))
  | _ =>
      simp only [List.length_cons, List.length_append]
      constructor
      · omega
      · omega

theorem announces_of_endsLine (breaks : endsLine c = true) : c ∈ announcers := by
  simp only [endsLine, Bool.or_eq_true, beq_iff_eq] at breaks
  rcases breaks with rfl | rfl
  all_goals decide

/-- A text whose backslashes stay stands for nothing but itself. -/
theorem KeepsBackslashes.evaluates_iff (keeps : KeepsBackslashes body) :
    Evaluates named body value ↔ value = body := by
  constructor
  · intro evaluates
    induction evaluates with
    | nil => rfl
    | plain other _ ih => rw [ih (keepsBackslashes_cons_iff.mp keeps).2]
    | kept ordinary _ ih => rw [ih keeps.escaped.2]
    | joined breaks => exact absurd (announces_of_endsLine breaks) keeps.escaped.1
    | letter mem =>
        have announces : ∀ e ∈ escapeLetters, e.1 ∈ announcers := by decide
        exact absurd (announces _ mem) keeps.escaped.1
    | octal octal =>
        exact absurd (List.mem_append_right _ (octal _ List.mem_cons_self)) keeps.escaped.1
    | code mem =>
        have announces : ∀ e ∈ codeWidths, e.1 ∈ announcers := by decide
        exact absurd (announces _ mem) keeps.escaped.1
    | name => exact absurd (by decide) keeps.escaped.1
  · rintro rfl
    refine KeepsBackslashes.induction ?nil ?plain ?kept keeps
    case nil => exact .nil
    case plain => exact fun c cs other later => .plain other later
    case kept => exact fun c cs ordinary later => .kept ordinary later

/-- A literal stands for its own text if and only if none of its backslashes begins an escape. -/
theorem evaluates_self_iff :
    (∀ value, Evaluates named body value ↔ value = body) ↔ KeepsBackslashes body := by
  constructor
  · intro verbatim
    exact ((verbatim body).mpr rfl).length_le.2 rfl
  · exact fun keeps _ => keeps.evaluates_iff

/-- A text without quotes and line breaks. -/
def IsUnbroken (cs : List Char) : Prop := ∀ c ∈ cs, c ≠ '"' ∧ endsLine c = false

instance (cs : List Char) : Decidable (IsUnbroken cs) := List.decidableBAll _ _

theorem isUnbroken_cons_iff :
    IsUnbroken (c :: cs) ↔ (c ≠ '"' ∧ endsLine c = false) ∧ IsUnbroken cs :=
  List.forall_mem_cons

/-- A text whose backslashes stay is the body of a literal in single quotes if and only if it has
neither a quote nor a line break. -/
theorem KeepsBackslashes.close?_iff (keeps : KeepsBackslashes body) (after : List Char) :
    Delimiter.one.close? (body ++ '"' :: after) = some (body, after) ↔
      IsUnbroken body := by
  refine KeepsBackslashes.induction ?nil ?plain ?kept keeps
  case nil =>
    have closed := Delimiter.close?_quotes .one after
    simpa [Delimiter.quotes, IsUnbroken] using closed
  case plain =>
    intro c cs other later
    rw [isUnbroken_cons_iff]
    by_cases closes : c = '"'
    · subst closes
      have closed := Delimiter.close?_quotes .one (cs ++ '"' :: after)
      rw [Delimiter.quotes, List.singleton_append] at closed
      simp [closed]
    by_cases breaks : endsLine c = true
    · have opens : ¬ Delimiter.one.quotes <+: c :: (cs ++ '"' :: after) :=
        Delimiter.not_begins closes
      rw [List.cons_append, Delimiter.close?_cons other,
        if_neg (mt List.isPrefixOf_iff_prefix.mp opens), if_pos ⟨rfl, breaks⟩]
      simp [breaks]
    · have inside : endsLine c = false := by simpa using breaks
      have passes := Delimiter.passes_singleton (d := .one) other closes (.inr inside)
      rw [and_iff_right ⟨closes, inside⟩, ← later]
      exact passes.close?_append_iff
  case kept =>
    intro c cs ordinary later
    have quote : c ≠ '"' := by
      rintro rfl
      exact ordinary (by decide)
    have line : endsLine c = false := by
      rw [Bool.eq_false_iff]
      exact fun breaks => ordinary (announces_of_endsLine breaks)
    rw [isUnbroken_cons_iff, isUnbroken_cons_iff, and_iff_right (by decide),
      and_iff_right ⟨quote, line⟩, ← later]
    exact (Delimiter.passes_escape .one c).close?_append_iff

end Values

end ApiCompiler.Python
