import ApiCompiler.Proofs.Go.Script
import ApiCompiler.Target.TypeScript.Generate
import ApiCompiler.Yaml.Token.Scalar
import Mathlib.Data.List.Basic

/-!
# String literals

What a literal in double quotes stands for in ECMAScript, as a sequence of code units, and what
becomes of a text that is quoted for it. The reader goes from left to right with a few modes, so
what it makes of a literal follows from what it makes of the characters. An escape that it does
not know stands for its letter. That is how a bell loses its value, and a character behind the
first plane that is not printable turns into its digits.
-/

namespace ApiCompiler.TypeScript.StringLiteral

open Text

/-! ## Code units -/

/-- The code units of a character in UTF-16: one in the first plane, and else a pair. -/
def units (c : Char) : List Nat :=
  if c.toNat < 0x10000 then [c.toNat]
  else [0xD800 + (c.toNat - 0x10000) / 0x400, 0xDC00 + (c.toNat - 0x10000) % 0x400]

/-- The code units of a text. -/
def unitsOf (cs : List Char) : List Nat := cs.flatMap units

theorem units_of_lt {c : Char} (plane : c.toNat < 0x10000) : units c = [c.toNat] :=
  if_pos plane

theorem units_of_le {c : Char} (astral : 0x10000 ≤ c.toNat) : units c =
    [0xD800 + (c.toNat - 0x10000) / 0x400, 0xDC00 + (c.toNat - 0x10000) % 0x400] :=
  if_neg (Nat.not_lt.mpr astral)

theorem units_ne_nil (c : Char) : units c ≠ [] := by
  unfold units
  split
  · exact List.cons_ne_nil _ _
  · exact List.cons_ne_nil _ _

/-- The first code unit says whether another one belongs to it, since no character has the number
of one half of a pair. -/
theorem eq_of_units_append {c d : Char} {us vs : List Nat}
    (same : units c ++ us = units d ++ vs) : c = d ∧ us = vs := by
  have half (e : Char) (f : Char) (astral : 0x10000 ≤ f.toNat) :
      e.toNat ≠ 0xD800 + (f.toNat - 0x10000) / 0x400 := by
    have limit := Go.Script.toNat_lt f
    rcases e.valid with low | high
    · change e.toNat < 0xD800 at low
      omega
    · change 0xDFFF < e.toNat ∧ _ at high
      omega
  rcases Nat.lt_or_ge c.toNat 0x10000 with plane | astral
  · rw [units_of_lt plane] at same
    rcases Nat.lt_or_ge d.toNat 0x10000 with plane' | astral'
    · rw [units_of_lt plane'] at same
      obtain ⟨number, rest⟩ := List.cons.inj same
      exact ⟨Char.toNat_inj.mp number, rest⟩
    · rw [units_of_le astral'] at same
      exact absurd (List.cons.inj same).1 (half c d astral')
  · rw [units_of_le astral] at same
    rcases Nat.lt_or_ge d.toNat 0x10000 with plane' | astral'
    · rw [units_of_lt plane'] at same
      exact absurd (List.cons.inj same).1.symm (half d c astral)
    · rw [units_of_le astral'] at same
      obtain ⟨first, rest⟩ := List.cons.inj same
      obtain ⟨second, rest⟩ := List.cons.inj rest
      exact ⟨Char.toNat_inj.mp (by omega), rest⟩

/-- The code units determine the text. -/
theorem unitsOf_injective : Function.Injective unitsOf := by
  intro cs ds same
  induction cs generalizing ds with
  | nil =>
      cases ds with
      | nil => rfl
      | cons d ds => exact absurd (List.append_eq_nil_iff.mp same.symm).1 (units_ne_nil d)
  | cons c cs ih =>
      cases ds with
      | nil => exact absurd (List.append_eq_nil_iff.mp same).1 (units_ne_nil c)
      | cons d ds =>
          obtain ⟨rfl, others⟩ := eq_of_units_append same
          rw [ih others]

/-! ## Reading a literal -/

/-- Where the reader stands in a literal: between characters, behind a backslash, or inside a code
unit, of which it knows the number of missing digits and the value so far. -/
inductive Mode where
  | text
  | escape
  | code (missing value : Nat)
deriving DecidableEq

/-- The letters that stand for a character behind a backslash. -/
def letters : List (Char × Char) :=
  [('b', '\x08'), ('f', '\x0c'), ('n', '\n'), ('r', '\r'), ('t', '\t'), ('v', '\x0b')]

/-- One character of a literal: the code units that it completes, and the mode behind it. A line
does not end inside a literal. Escapes with decimal digits and escaped line breaks are not read. -/
def step : Mode → Char → Option (List Nat × Mode)
  | .text, c =>
    if c = '\\' then some ([], .escape)
    else if c ∈ ['\n', '\r'] then none
    else some (units c, .text)
  | .escape, c =>
    if c = 'x' then some ([], .code 2 0)
    else if c = 'u' then some ([], .code 4 0)
    else if c.isDigit ∨ c ∈ ['\n', '\r', '\u2028', '\u2029'] then none
    else some (units ((letters.lookup c).getD c), .text)
  | .code missing value, c => (Yaml.hexValue? c).map fun digit =>
    if 1 < missing then ([], .code (missing - 1) (value * 16 + digit))
    else ([value * 16 + digit], .text)

/-- The code units up to the quote that ends a literal, and what follows it. -/
def read : Mode → List Char → Option (List Nat × List Char)
  | _, [] => none
  | m, c :: rest =>
    if m = .text ∧ c = '"' then some ([], rest)
    else (step m c).bind fun (now, next) =>
      (read next rest).map fun (later, after) => (now ++ later, after)

/-- The value of a literal at the beginning of a text, and what follows it. -/
def literal? : List Char → Option (List Nat × List Char)
  | '"' :: rest => read .text rest
  | _ => none

/-- Some characters are read as code units, whatever follows them. -/
def Reads (m : Mode) (cs : List Char) (us : List Nat) (next : Mode) : Prop :=
  ∀ rest, read m (cs ++ rest) = (read next rest).map fun (later, after) => (us ++ later, after)

theorem reads_nil (m : Mode) : Reads m [] [] m := by
  intro rest
  exact (Option.map_id' (x := read m rest)).symm

theorem Reads.append {m next last : Mode} {cs ds : List Char} {us vs : List Nat}
    (first : Reads m cs us next) (second : Reads next ds vs last) :
    Reads m (cs ++ ds) (us ++ vs) last := by
  intro rest
  rw [List.append_assoc, first, second, Option.map_map]
  apply congrArg (Option.map · (read last rest))
  funext answer
  exact Prod.ext (List.append_assoc us vs answer.1).symm rfl

theorem reads_of_step {m next : Mode} {c : Char} {us : List Nat}
    (inside : ¬(m = .text ∧ c = '"')) (steps : step m c = some (us, next)) :
    Reads m [c] us next := by
  intro rest
  rw [List.singleton_append, read, if_neg inside, steps]
  rfl

/-! ## Single characters -/

/-- A character that stands for itself between quotes. -/
def IsPlain (c : Char) : Prop := c ∉ ['"', '\\', '\n', '\r']

theorem reads_plain {c : Char} (plain : IsPlain c) : Reads .text [c] (units c) .text := by
  simp only [IsPlain, List.mem_cons, List.not_mem_nil, or_false, not_or] at plain
  apply reads_of_step (fun quote => plain.1 quote.2)
  rw [step, if_neg plain.2.1, if_neg (by simp [plain.2.2])]

theorem reads_all_plain {cs : List Char} (plain : ∀ c ∈ cs, IsPlain c) :
    Reads .text cs (unitsOf cs) .text := by
  induction cs with
  | nil => exact reads_nil .text
  | cons c cs ih =>
      rw [List.forall_mem_cons] at plain
      exact (reads_plain plain.1).append (ih plain.2)

/-- A backslash and a character for which no digits are read. -/
theorem reads_escaped {c : Char} {us : List Nat} {next : Mode}
    (steps : step .escape c = some (us, next)) : Reads .text ['\\', c] us next := by
  have backslash : Reads .text ['\\'] [] .escape := reads_of_step (by decide) rfl
  exact backslash.append (reads_of_step (by simp) steps)

/-! ## Digits -/

theorem hexValue?_hexDigit {n : Nat} (small : n < 16) :
    Yaml.hexValue? (hexDigit n) = some n := by
  decide +revert

theorem isPlain_hexDigit {n : Nat} (small : n < 16) : IsPlain (hexDigit n) := by
  unfold IsPlain
  decide +revert

theorem exists_of_mem_hexDigits {c : Char} {width n : Nat} (mem : c ∈ hexDigits width n) :
    ∃ digit < 16, c = hexDigit digit := by
  induction width generalizing n with
  | zero => exact nomatch mem
  | succ width ih =>
      rcases List.mem_append.mp mem with before | last
      · exact ih before
      · exact ⟨n % 16, Nat.mod_lt n (by decide), List.mem_singleton.mp last⟩

/-- Digits in front of the last one add up. -/
theorem reads_hexDigits (missing width n : Nat) :
    Reads (.code (missing + width + 1) 0) (hexDigits width n) []
      (.code (missing + 1) (n % 16 ^ width)) := by
  induction width generalizing n missing with
  | zero =>
      rw [Nat.pow_zero, Nat.mod_one]
      exact reads_nil _
  | succ width ih =>
      have last : Reads (.code (missing + 2) (n / 16 % 16 ^ width)) [hexDigit (n % 16)] []
          (.code (missing + 1) (n % 16 ^ (width + 1))) := by
        apply reads_of_step (by simp)
        rw [step, hexValue?_hexDigit (Nat.mod_lt n (by decide)), ← Go.Script.sum_hexDigits,
          Option.map_some, if_pos (by omega)]
        rfl
      have before := ih (missing + 1) (n / 16)
      rw [Nat.add_right_comm missing 1 width] at before
      exact before.append last

/-- All the digits of a code unit are read as the code unit. -/
theorem reads_code {width n : Nat} (fits : n < 16 ^ (width + 1)) :
    Reads (.code (width + 1) 0) (hexDigits (width + 1) n) [n] .text := by
  have before := reads_hexDigits 0 width (n / 16)
  rw [Nat.zero_add, Go.Script.div_mod_of_fits fits] at before
  have last : Reads (.code 1 (n / 16)) [hexDigit (n % 16)] [n] .text := by
    apply reads_of_step (by simp)
    rw [step, hexValue?_hexDigit (Nat.mod_lt n (by decide)), Option.map_some,
      if_neg (by decide), Nat.div_add_mod' n 16]
  exact before.append last

/-! ## Quoted characters -/

/-- A character that a quoted text keeps: no bell, and printable if it is behind the first
plane. -/
def Survives (c : Char) : Prop := c ≠ '\x07' ∧ (c.toNat < 0x10000 ∨ isPrintable c = true)

instance : DecidablePred Survives := fun _ => inferInstanceAs (Decidable (_ ∧ _))

/-- What a quoted character is read as: itself if it survives, else the letter of its escape, with
the digits behind it. -/
def valueOf (c : Char) : List Nat :=
  if Survives c then units c
  else if c = '\x07' then units 'a'
  else unitsOf ('U' :: hexDigits 8 c.toNat)

theorem valueOf_of_survives {c : Char} (survives : Survives c) : valueOf c = units c :=
  if_pos survives

theorem reads_codePoint {c : Char} (printable : isPrintable c = false)
    (unnamed : Quoted.letters.lookup c = none) :
    Reads .text (Quoted.codePoint c) (valueOf c) .text := by
  have other : c ≠ '\x07' := by
    rintro rfl
    exact nomatch unnamed
  unfold Quoted.codePoint
  split
  · rename_i ascii
    have plane : c.toNat < 0x10000 := Nat.lt_trans ascii (by decide)
    rw [valueOf_of_survives ⟨other, .inl plane⟩, units_of_lt plane]
    exact (reads_escaped (c := 'x') rfl).append
      (reads_code (Nat.lt_trans ascii (by decide)))
  · split
    · rename_i plane
      rw [valueOf_of_survives ⟨other, .inl plane⟩, units_of_lt plane]
      exact (reads_escaped (c := 'u') rfl).append (reads_code plane)
    · rename_i astral
      have lost : ¬Survives c := by
        rintro ⟨-, plane | shown⟩
        · exact astral plane
        · exact Bool.eq_false_iff.mp printable shown
      rw [valueOf, if_neg lost, if_neg other]
      -- the letter stands for itself, and so do the digits behind it
      have digits : Reads .text (hexDigits 8 c.toNat) (unitsOf (hexDigits 8 c.toNat)) .text := by
        apply reads_all_plain
        intro d mem
        obtain ⟨digit, small, rfl⟩ := exists_of_mem_hexDigits mem
        exact isPlain_hexDigit small
      exact (reads_escaped (c := 'U') rfl).append digits

theorem reads_letter {c letter : Char} (found : Quoted.letters.lookup c = some letter) :
    Reads .text ['\\', letter] (valueOf c) .text := by
  have known : ∀ p ∈ Quoted.letters, step .escape p.2 = some (valueOf p.1, .text) := by decide
  obtain ⟨before, after, split, -⟩ := List.lookup_eq_some_iff.mp found
  apply reads_escaped
  exact known (c, letter) (split ▸ List.mem_append_right before List.mem_cons_self)

theorem reads_escape (c : Char) : Reads .text (Quoted.escape c) (valueOf c) .text := by
  rw [Quoted.escape]
  by_cases special : c = '"' ∨ c = '\\'
  · rw [if_pos special]
    rcases special with rfl | rfl
    · exact reads_escaped rfl
    · exact reads_escaped rfl
  · rw [if_neg special]
    by_cases printable : isPrintable c = true
    · have survives : Survives c := by
        refine ⟨?_, .inr printable⟩
        rintro rfl
        exact absurd printable (by decide)
      have plain : IsPlain c := by
        intro mem
        simp only [List.mem_cons, List.not_mem_nil, or_false] at mem
        rcases mem with rfl | rfl | rfl | rfl
        · exact special (.inl rfl)
        · exact special (.inr rfl)
        · exact absurd printable (by decide)
        · exact absurd printable (by decide)
      rw [if_pos printable, valueOf_of_survives survives]
      exact reads_plain plain
    · rw [if_neg printable]
      cases found : Quoted.letters.lookup c with
      | none => exact reads_codePoint (Bool.eq_false_iff.mpr printable) found
      | some letter => exact reads_letter found

/-! ## Quoted texts -/

theorem reads_encode (cs : List Char) :
    Reads .text (Quoted.encode cs) (cs.flatMap valueOf) .text := by
  induction cs with
  | nil => exact reads_nil .text
  | cons c cs ih => exact (reads_escape c).append ih

/-- A quoted text is one literal. -/
theorem literal?_quote (s : String) (after : List Char) :
    literal? ((quote s).toList ++ after) = some (s.toList.flatMap valueOf, after) := by
  have closing : read .text ('"' :: after) = some ([], after) := if_pos ⟨rfl, rfl⟩
  rw [quote, String.toList_ofList, List.cons_append, List.cons_append, literal?, List.append_assoc,
    List.singleton_append, reads_encode, closing, Option.map_some]
  dsimp only
  rw [List.append_nil]

/-- A character that does not survive begins with another code unit. -/
theorem valueOf_append_ne {c : Char} (lost : ¬Survives c) (us vs : List Nat) :
    valueOf c ++ us ≠ units c ++ vs := by
  rw [valueOf, if_neg lost]
  by_cases bell : c = '\x07'
  · rw [if_pos bell]
    intro same
    exact absurd (bell.symm.trans (eq_of_units_append same).1.symm) (by decide)
  · rw [if_neg bell, unitsOf, List.flatMap_cons, List.append_assoc]
    intro same
    have letter : c = 'U' := (eq_of_units_append same).1.symm
    exact lost ⟨bell, .inl (by rw [letter]; decide)⟩

/-- A literal stands for the quoted text exactly if all characters survive. -/
theorem flatMap_valueOf_eq_iff (cs : List Char) :
    cs.flatMap valueOf = unitsOf cs ↔ ∀ c ∈ cs, Survives c := by
  induction cs with
  | nil => exact iff_of_true rfl (List.forall_mem_nil _)
  | cons c cs ih =>
      rw [List.forall_mem_cons, List.flatMap_cons, unitsOf, List.flatMap_cons, ← unitsOf, ← ih]
      by_cases survives : Survives c
      · rw [valueOf_of_survives survives, List.append_cancel_left_eq]
        exact (and_iff_right survives).symm
      · exact iff_of_false (valueOf_append_ne survives _ _) fun both => survives both.1

/-! ## Lists of literals -/

/-- The values of literals with commas between them up to the bracket that closes their list, and
what follows it. -/
inductive Elements : List Char → List (List Nat) → List Char → Prop
  | last {cs value after} (first : literal? cs = some (value, ']' :: after)) :
      Elements cs [value] after
  | cons {cs value rest values after} (first : literal? cs = some (value, ',' :: ' ' :: rest))
      (others : Elements rest values after) : Elements cs (value :: values) after

theorem elements_iff {cs tail after : List Char} {value : List Nat} {values : List (List Nat)}
    (first : literal? cs = some (value, tail)) : Elements cs values after ↔
      (values = [value] ∧ tail = ']' :: after) ∨
        ∃ rest others, tail = ',' :: ' ' :: rest ∧ Elements rest others after ∧
          values = value :: others := by
  constructor
  · rintro (found | ⟨found, others⟩)
    · cases first.symm.trans found
      exact .inl ⟨rfl, rfl⟩
    · cases first.symm.trans found
      exact .inr ⟨_, _, rfl, others, rfl⟩
  · rintro (⟨rfl, rfl⟩ | ⟨rest, others, rfl, more, rfl⟩)
    · exact .last first
    · exact .cons first more

theorem elements_quote_iff (name : String) (names : List String) (after : List Char)
    (values : List (List Nat)) (rest : List Char) :
    Elements ((joinWith ", " ((name :: names).map quote)).toList ++ ']' :: after) values rest ↔
      values = (name :: names).map (fun n => n.toList.flatMap valueOf) ∧ rest = after := by
  induction names generalizing name values with
  | nil =>
      rw [List.map_singleton, joinWith, String.intercalate_singleton, List.map_singleton,
        elements_iff (literal?_quote name _)]
      simp [eq_comm (a := rest)]
  | cons next names ih =>
      have split : (joinWith ", " ((name :: next :: names).map quote)).toList ++ ']' :: after =
          (quote name).toList ++ (',' :: ' ' ::
            ((joinWith ", " ((next :: names).map quote)).toList ++ ']' :: after)) := by
        rw [List.map_cons, List.map_cons, joinWith, String.intercalate_cons_cons, ← joinWith]
        simp
      rw [split, elements_iff (literal?_quote name _), List.map_cons]
      constructor
      · rintro (⟨-, closed⟩ | ⟨_, others, same, more, rfl⟩)
        · exact nomatch closed
        · cases same
          obtain ⟨rfl, rfl⟩ := (ih next others).mp more
          exact ⟨rfl, rfl⟩
      · rintro ⟨rfl, rfl⟩
        exact .inr ⟨_, _, rfl, (ih next _).mpr ⟨rfl, rfl⟩, rfl⟩

/-- Behind the entries of the arguments their names are listed in order. -/
theorem argumentEntries_cons (a : ResolvedArgument × String)
    (args : List (ResolvedArgument × String)) (im : Imports) : ∃ entries im',
    argumentEntries (a :: args) im = .ok (inOrder [entries,
      line ("args_ordering: [" ++ joinWith ", " ((a :: args).map fun e => quote e.1.name) ++ "],")],
      im') :=
  ⟨_, _, rfl⟩

/-- Whatever follows, a quoted text is one literal. It stands for the text, whose code units it has,
exactly if no character of the text is a bell, and each behind the first plane is printable. The
same holds for all texts in the order of the arguments of an endpoint. The code units of different
texts are different. -/
theorem quote_exact (s : String) (after : List Char) (a : ResolvedArgument × String)
    (args : List (ResolvedArgument × String)) (im : Imports) :
    (∃ value, literal? ((quote s).toList ++ after) = some (value, after) ∧
      (value = unitsOf s.toList ↔ ∀ c ∈ s.toList, Survives c)) ∧
    (∃ entries im' ordering values,
      argumentEntries (a :: args) im =
        .ok (inOrder [entries, line ("args_ordering: [" ++ ordering ++ "],")], im') ∧
      (∀ after found rest, Elements (ordering.toList ++ ']' :: after) found rest ↔
        found = values ∧ rest = after) ∧
      (values = (a :: args).map (fun e => unitsOf e.1.name.toList) ↔
        ∀ e ∈ a :: args, ∀ c ∈ e.1.name.toList, Survives c)) ∧
    ∀ t : String, unitsOf s.toList = unitsOf t.toList ↔ s = t := by
  refine ⟨?single, ?arguments, ?different⟩
  case single =>
    exact ⟨s.toList.flatMap valueOf, literal?_quote s after, flatMap_valueOf_eq_iff s.toList⟩
  case arguments =>
    obtain ⟨entries, im', written⟩ := argumentEntries_cons a args im
    refine ⟨entries, im', _, (a :: args).map fun e => e.1.name.toList.flatMap valueOf, written,
      ?_, ?_⟩
    · intro after found rest
      have listed := elements_quote_iff a.1.name (args.map (·.1.name)) after found rest
      rw [← List.map_cons (f := fun e : ResolvedArgument × String => e.1.name), List.map_map,
        List.map_map] at listed
      exact listed
    · rw [List.map_inj_left]
      exact forall₂_congr fun e _ => flatMap_valueOf_eq_iff e.1.name.toList
  case different =>
    intro t
    rw [unitsOf_injective.eq_iff, String.toList_inj]

/-- A bell is read as a letter. -/
theorem bell_read_as_letter :
    literal? (quote "\x07").toList = some (unitsOf "a".toList, []) ∧
      unitsOf "a".toList ≠ unitsOf "\x07".toList := by
  decide

end ApiCompiler.TypeScript.StringLiteral
