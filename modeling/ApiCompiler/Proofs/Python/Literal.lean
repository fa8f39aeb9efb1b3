import ApiCompiler.Proofs.Text.Words
import ApiCompiler.Proofs.Value
import ApiCompiler.Target.Python.Literal

/-!
# Python literals

The literals of Python are given by a grammar that says for each text what it denotes: the
constants, decimal integers, texts in single quotes, lists and dictionaries. A literal that is
followed by no digit is determined by the text that it stands in, so every text denotes at most
one value, and what is written for a plain value denotes that value.
-/

namespace ApiCompiler.Python

open Text Value

/-! ## The grammar -/

/-- What a backslash announces: the character after it, with the one that both stand for. -/
def escapes : List (Char × Char) :=
  [('\\', '\\'), ('\'', '\''), ('n', '\n'), ('r', '\r'), ('t', '\t')]

/-- What stands between the quotes of a text, with the characters that it spells. -/
inductive Spells : List Char → List Char → Prop
  | nil : Spells [] []
  | plain {c body cs} (unescaped : c ∉ ['\\', '\'', '\n', '\r']) (rest : Spells body cs) :
      Spells (c :: body) (c :: cs)
  | escaped {code c body cs} (mem : (code, c) ∈ escapes) (rest : Spells body cs) :
      Spells ('\\' :: code :: body) (c :: cs)

/-- A text in single quotes. -/
inductive Quoted : List Char → String → Prop
  | quoted {body cs} (spells : Spells body cs) : Quoted ('\'' :: body ++ ['\'']) (String.ofList cs)

/-- A decimal integer without a sign; only zero begins with a zero. -/
structure IsNumeral (digits : List Char) : Prop where
  ne_nil : digits ≠ []
  digit : ∀ c ∈ digits, c.isDigit = true
  leading : digits.head? = some '0' → ∀ c ∈ digits, c = '0'

/-- A key with its value, each with the text that it is written as. -/
abbrev Entry := (List Char × String) × List Char × Value

/-- The text of a key with its value. -/
def entryText (e : Entry) : List Char := e.1.1 ++ ':' :: ' ' :: e.2.1

/-- The literals with the values that they denote. -/
inductive Denotes : List Char → Value → Prop
  | none : Denotes "None".toList null
  | true : Denotes "True".toList (bool true)
  | false : Denotes "False".toList (bool false)
  | natural {digits} (numeral : IsNumeral digits) :
      Denotes digits (int (Nat.ofDigitChars 10 digits 0))
  | negative {digits} (numeral : IsNumeral digits) :
      Denotes ('-' :: digits) (int (-Nat.ofDigitChars 10 digits 0))
  | str {text s} (quoted : Quoted text s) : Denotes text (str s)
  | list {items : List (List Char × Value)} (each : ∀ item ∈ items, Denotes item.1 item.2) :
      Denotes ('[' :: ([',', ' '].intercalate (items.map (·.1)) ++ [']'])) (list (items.map (·.2)))
  | dict {entries : List Entry} (distinct : (entries.map (·.1.2)).Nodup)
      (keys : ∀ e ∈ entries, Quoted e.1.1 e.1.2) (each : ∀ e ∈ entries, Denotes e.2.1 e.2.2) :
      Denotes ('\x7b' :: ([',', ' '].intercalate (entries.map entryText) ++ ['\x7d']))
        (map (entries.map fun e => (e.1.2, e.2.2)))

/-! ## A literal is determined by the text that it stands in -/

/-- The first character of a literal of a value; `0` stands for those of an integer. -/
def lead : Value → Char
  | .null => 'N'
  | .bool b => if b then 'T' else 'F'
  | .int _ => '0'
  | .str _ => '\''
  | .list _ => '['
  | .map _ => '\x7b'
  | _ => ' '

/-- The kind of literal that a character begins. -/
def leadOf (c : Char) : Char := if c = '-' ∨ c.isDigit = true then '0' else c

/-- What may follow a literal: anything but a digit. -/
def EndsNumber (rest : List Char) : Prop := ∀ c ∈ rest.head?, c.isDigit = false

section Determined

variable {text other body others r q digits : List Char} {cs ds : List Char} {s t : String}
  {v w : Value}

theorem IsNumeral.exists_cons (numeral : IsNumeral digits) :
    ∃ d rest, digits = d :: rest ∧ d.isDigit = true := by
  obtain ⟨d, rest, rfl⟩ := List.exists_cons_of_ne_nil numeral.ne_nil
  exact ⟨d, rest, rfl, numeral.digit d List.mem_cons_self⟩

theorem Quoted.head (quoted : Quoted text s) (rest : List Char) :
    (text ++ rest).head? = some '\'' := by
  cases quoted
  rfl

theorem Denotes.head (denotes : Denotes text v) (rest : List Char) :
    (text ++ rest).head?.map leadOf = some (lead v) := by
  cases denotes with
  | natural numeral =>
      obtain ⟨d, rest, rfl, digit⟩ := numeral.exists_cons
      simp [leadOf, lead, digit]
  | str quoted => rw [quoted.head]; rfl
  | _ => rfl

/-- Literals of different kinds do not begin alike. -/
theorem Denotes.lead_eq (first : Denotes text v) (second : Denotes other w)
    (same : text ++ r = other ++ q) : lead v = lead w := by
  rw [← Option.some.injEq, ← first.head r, same, second.head q]

theorem Denotes.head_ne_closing (denotes : Denotes text v) (rest : List Char) :
    (text ++ rest).head? ≠ some ']' := by
  intro begins
  have closing := denotes.head rest
  rw [begins] at closing
  have not_lead : lead v ≠ ']' := by
    cases v with
    | bool b => cases b <;> decide
    | _ => simp [lead]
  exact not_lead (Option.some.inj closing).symm

theorem Quoted.head_ne_closing {e : Entry} (key : Quoted e.1.1 e.1.2) (rest : List Char) :
    (entryText e ++ rest).head? ≠ some '\x7d' := by
  rw [entryText, List.append_assoc, key.head]
  decide

theorem Spells.determined (first : Spells body cs) (second : Spells others ds)
    (same : body ++ '\'' :: r = others ++ '\'' :: q) : body = others ∧ cs = ds ∧ r = q := by
  induction first generalizing others ds with
  | nil =>
      cases second with
      | nil => exact ⟨rfl, rfl, (List.cons.inj same).2⟩
      | plain unescaped rest =>
          obtain ⟨rfl, _⟩ := List.cons.inj same
          exact absurd (by decide) unescaped
      | escaped mem rest => exact absurd (List.cons.inj same).1 (by decide)
  | plain unescaped rest ih =>
      cases second with
      | nil =>
          obtain ⟨rfl, _⟩ := List.cons.inj same
          exact absurd (by decide) unescaped
      | plain _ others =>
          obtain ⟨rfl, tail⟩ := List.cons.inj same
          obtain ⟨rfl, rfl, rest⟩ := ih others tail
          exact ⟨rfl, rfl, rest⟩
      | escaped mem others =>
          obtain ⟨rfl, _⟩ := List.cons.inj same
          exact absurd (by decide) unescaped
  | @escaped code c body cs mem rest ih =>
      cases second with
      | nil => exact absurd (List.cons.inj same).1 (by decide)
      | plain unescaped others =>
          obtain ⟨rfl, _⟩ := List.cons.inj same
          exact absurd (by decide) unescaped
      | @escaped code' c' body' cs' mem' others =>
          obtain ⟨rfl, tail⟩ := List.cons.inj (List.cons.inj same).2
          obtain ⟨rfl, rfl, rest⟩ := ih others tail
          have table : ∀ e ∈ escapes, ∀ e' ∈ escapes, e.1 = e'.1 → e.2 = e'.2 := by decide
          have spelled : c = c' := table _ mem _ mem' rfl
          exact ⟨rfl, by rw [spelled], rest⟩

theorem Quoted.determined (first : Quoted text s) (second : Quoted other t)
    (same : text ++ r = other ++ q) : text = other ∧ s = t ∧ r = q := by
  obtain ⟨spells⟩ := first
  obtain ⟨others⟩ := second
  simp only [List.cons_append, List.append_assoc, List.nil_append] at same
  obtain ⟨rfl, rfl, rest⟩ := spells.determined others (List.cons.inj same).2
  exact ⟨rfl, rfl, rest⟩

theorem IsNumeral.determined {others : List Char} (first : IsNumeral digits)
    (second : IsNumeral others) (ends : EndsNumber r) (stops : EndsNumber q)
    (same : digits ++ r = others ++ q) : digits = others ∧ r = q :=
  append_inj_of_ends first.digit second.digit (fun c mem => by simp [ends c mem])
    (fun c mem => by simp [stops c mem]) same

theorem endsNumber_of_not_digit {c : Char} (other : c.isDigit = false) (rest : List Char) :
    EndsNumber (c :: rest) := by
  rintro _ ⟨⟩
  exact other

/-- Items behind an opening bracket do not begin like the closing one. -/
theorem closing_ne_items {γ : Type} {item : γ → List Char} {close : Char} {items : List γ}
    (begins : ∀ a ∈ items, ∀ rest, (item a ++ rest).head? ≠ some close) (nonempty : items ≠ []) :
    close :: r ≠ [',', ' '].intercalate (items.map item) ++ q := by
  obtain ⟨a, rest, rfl⟩ := List.exists_cons_of_ne_nil nonempty
  obtain ⟨back, joined, _⟩ := exists_intercalate_of_head? [',', ' ']
    (show ((a :: rest).map item).head? = some (item a) from rfl)
  intro same
  rw [joined, List.append_assoc] at same
  exact begins a List.mem_cons_self _ (congrArg List.head? same).symm

/-- The items between brackets are determined if each of them is, and none begins like the closing
bracket. -/
theorem items_determined {γ : Type} {item : γ → List Char} {close : Char} {items others : List γ}
    (determined : ∀ a ∈ items, ∀ b ∈ others, ∀ r q, EndsNumber r → EndsNumber q →
      item a ++ r = item b ++ q → a = b)
    (begins : ∀ a ∈ items, ∀ rest, (item a ++ rest).head? ≠ some close)
    (otherBegins : ∀ b ∈ others, ∀ rest, (item b ++ rest).head? ≠ some close)
    (noDigit : close.isDigit = false) (noComma : close ≠ ',')
    (same : [',', ' '].intercalate (items.map item) ++ close :: r =
      [',', ' '].intercalate (others.map item) ++ close :: q) : items = others := by
  have last (rest : List Char) : ¬ [',', ' '] <+: close :: rest := by
    rintro ⟨_, eq⟩
    exact noComma (List.cons.inj eq).1.symm
  by_cases none : items = []
  · subst none
    by_contra some
    exact closing_ne_items otherBegins (Ne.symm some) same
  · by_cases otherNone : others = []
    · subst otherNone
      exact absurd same.symm (closing_ne_items begins none)
    · exact (intercalate_inj none otherNone determined
        (fun _ => endsNumber_of_not_digit (by decide) _) (endsNumber_of_not_digit noDigit _)
        (endsNumber_of_not_digit noDigit _) (last _) (last _) same).1

/-- A literal that no digit follows is determined by the text that it stands in. -/
theorem Denotes.determined (first : Denotes text v) (second : Denotes other w)
    (ends : EndsNumber r) (stops : EndsNumber q) (same : text ++ r = other ++ q) :
    text = other ∧ v = w := by
  -- by induction on one derivation; the other one is for a value of the same kind
  have kinds := first.lead_eq second same
  induction first generalizing other w r q with
  | none =>
      cases second with
      | none => exact ⟨rfl, rfl⟩
      | _ => simp [lead] at kinds
  | true =>
      cases second with
      | true => exact ⟨rfl, rfl⟩
      | _ => simp [lead] at kinds
  | false =>
      cases second with
      | false => exact ⟨rfl, rfl⟩
      | _ => simp [lead] at kinds
  | natural numeral =>
      cases second with
      | natural others =>
          obtain ⟨rfl, _⟩ := numeral.determined others ends stops same
          exact ⟨rfl, rfl⟩
      | negative others =>
          obtain ⟨d, rest, rfl, digit⟩ := numeral.exists_cons
          obtain ⟨rfl, _⟩ := List.cons.inj same
          exact absurd digit (by decide)
      | _ => simp [lead] at kinds
  | negative numeral =>
      cases second with
      | natural others =>
          obtain ⟨d, rest, rfl, digit⟩ := others.exists_cons
          obtain ⟨rfl, _⟩ := List.cons.inj same
          exact absurd digit (by decide)
      | negative others =>
          obtain ⟨rfl, _⟩ := numeral.determined others ends stops (List.cons.inj same).2
          exact ⟨rfl, rfl⟩
      | _ => simp [lead] at kinds
  | str quoted =>
      cases second with
      | str others =>
          obtain ⟨rfl, rfl, _⟩ := quoted.determined others same
          exact ⟨rfl, rfl⟩
      | _ => simp [lead] at kinds
  | @list items each ih =>
      cases second with
      | @list others eachOther =>
          simp only [List.cons_append, List.append_assoc, List.nil_append] at same
          have eq : items = others := by
            refine items_determined ?_ (fun a mem => (each a mem).head_ne_closing)
              (fun b mem => (eachOther b mem).head_ne_closing) (by decide) (by decide)
              (List.cons.inj same).2
            intro a mem b memOther r q ends stops same
            have kinds := (each a mem).lead_eq (eachOther b memOther) same
            exact Prod.ext_iff.mpr (ih a mem (eachOther b memOther) ends stops same kinds)
          exact ⟨by rw [eq], by rw [eq]⟩
      | _ => simp [lead] at kinds
  | @dict entries distinct keys each ih =>
      cases second with
      | @dict others _ otherKeys eachOther =>
          simp only [List.cons_append, List.append_assoc, List.nil_append] at same
          have eq : entries = others := by
            refine items_determined ?_ (fun a mem => (keys a mem).head_ne_closing)
              (fun b mem => (otherKeys b mem).head_ne_closing) (by decide) (by decide)
              (List.cons.inj same).2
            intro a mem b memOther r q ends stops same
            simp only [entryText, List.append_assoc, List.cons_append] at same
            obtain ⟨key, name, same⟩ := (keys a mem).determined (otherKeys b memOther) same
            have value := (List.cons.inj (List.cons.inj same).2).2
            have kinds := (each a mem).lead_eq (eachOther b memOther) value
            have item := ih a mem (eachOther b memOther) ends stops value kinds
            exact Prod.ext_iff.mpr ⟨Prod.ext_iff.mpr ⟨key, name⟩, Prod.ext_iff.mpr item⟩
          exact ⟨by rw [eq], by rw [eq]⟩
      | _ => simp [lead] at kinds

end Determined

/-! ## What is written denotes the value -/

theorem spells_escape (cs : List Char) : Spells (cs.flatMap escape) cs := by
  induction cs with
  | nil => exact .nil
  | cons c cs ih =>
      rw [List.flatMap_cons, escape]
      split_ifs with backslash quote newline carriage tab
      · exact .escaped (by rw [backslash]; decide) ih
      · exact .escaped (by rw [quote]; decide) ih
      · exact .escaped (by rw [newline]; decide) ih
      · exact .escaped (by rw [carriage]; decide) ih
      · exact .escaped (by rw [tab]; decide) ih
      · exact .plain (by simp [backslash, quote, newline, carriage]) ih

theorem quoted_quote (s : String) : Quoted (quote s).toList s := by
  have quoted := Quoted.quoted (spells_escape s.toList)
  rw [String.ofList_toList] at quoted
  rw [quote, String.toList_ofList]
  exact quoted

theorem head_toDigits_ne_zero {n : Nat} (pos : 0 < n) : (Nat.toDigits 10 n).head? ≠ some '0' := by
  induction n using Nat.strongRecOn with
  | ind n ih =>
      by_cases small : n < 10
      · rw [Nat.toDigits_of_lt_base small]
        have digits : ∀ m < 10, 0 < m → [Nat.digitChar m].head? ≠ some '0' := by decide
        exact digits n small pos
      · have large := Nat.le_of_not_lt small
        rw [Nat.toDigits_of_base_le (by decide) large,
          List.head?_append_of_ne_nil _ Nat.toDigits_ne_nil]
        exact ih (n / 10) (by omega) (by omega)

theorem isNumeral_toDigits (n : Nat) : IsNumeral (Nat.toDigits 10 n) where
  ne_nil := Nat.toDigits_ne_nil
  digit _ mem := Nat.isDigit_of_mem_toDigits (by decide) (by decide) mem
  leading := by
    intro head
    rcases Nat.eq_zero_or_pos n with rfl | pos
    · exact fun c mem => List.mem_singleton.mp mem
    · exact absurd head (head_toDigits_ne_zero pos)

theorem denotes_toString (i : Int) : Denotes (toString i).toList (int i) := by
  rw [show toString i = i.repr from rfl, Int.repr_eq_if]
  split
  · rename_i nonneg
    have natural := Denotes.natural (isNumeral_toDigits i.toNat)
    rw [Nat.ofDigitChars_ten_toDigits, Int.toNat_of_nonneg nonneg] at natural
    rw [Nat.repr_eq_ofList_toDigits, String.toList_ofList]
    exact natural
  · rename_i below
    have negative := Denotes.negative (isNumeral_toDigits (-i).toNat)
    rw [Nat.ofDigitChars_ten_toDigits, Int.toNat_of_nonneg (by omega), Int.neg_neg] at negative
    simp only [Nat.repr_eq_ofList_toDigits, String.toList_append, String.toList_ofList]
    exact negative

theorem literals_eq_map (items : List Value) : literals items = items.map literal := by
  induction items with
  | nil => rfl
  | cons v rest ih => rw [literals, ih, List.map_cons]

theorem literalEntries_eq_map (entries : List (String × Value)) :
    literalEntries entries = entries.map fun e => (e.1, literal e.2) := by
  induction entries with
  | nil => rfl
  | cons e rest ih => rw [literalEntries, ih, List.map_cons]

theorem sortedEntries_literalEntries (entries : List (String × Value)) :
    sortedEntries (literalEntries entries) =
      (sortedEntries entries).map fun e => (e.1, literal e.2) := by
  rw [literalEntries_eq_map, sortedEntries_map]

theorem toList_literal_list (items : List Value) :
    (literal (.list items)).toList =
      '[' :: ([',', ' '].intercalate (items.map fun v => (literal v).toList) ++ [']']) := by
  rw [literal, literals_eq_map]
  simp [joinWith, String.toList_intercalate, Function.comp_def]

theorem toList_literal_map (entries : List (String × Value)) :
    (literal (.map entries)).toList =
      '\x7b' :: ([',', ' '].intercalate ((sortedEntries entries).map fun e =>
        (quote e.1).toList ++ ':' :: ' ' :: (literal e.2).toList) ++ ['\x7d']) := by
  rw [literal, sortedEntries_literalEntries]
  simp [joinWith, String.toList_intercalate, Function.comp_def]

/-- An entry of a map, as it is written. -/
def entryOf (e : String × Value) : Entry :=
  (((quote e.1).toList, e.1), (literal e.2).toList, e.2.ordered)

theorem denotes_literal {v : Value} (plain : IsPlain v) :
    Denotes (literal v).toList v.ordered := by
  induction plain with
  | null => exact .none
  | bool b =>
      cases b with
      | true => exact .true
      | false => exact .false
  | int i => exact denotes_toString i
  | str s => exact .str (quoted_quote s)
  | @list items each ih =>
      have written : ∀ item ∈ items.map fun v => ((literal v).toList, v.ordered),
          Denotes item.1 item.2 := by
        rw [List.forall_mem_map]
        exact ih
      have list := Denotes.list written
      simp only [List.map_map, Function.comp_def] at list
      rw [toList_literal_list, ordered, orderedAll_eq_map]
      exact list
  | @map entries distinct each ih =>
      have distinctKeys : (((sortedEntries entries).map entryOf).map (·.1.2)).Nodup := by
        rw [List.map_map]
        exact ((List.mergeSort_perm entries _).map _).nodup_iff.mpr distinct
      have keys : ∀ e ∈ (sortedEntries entries).map entryOf, Quoted e.1.1 e.1.2 := by
        rw [List.forall_mem_map]
        intro e _
        dsimp only [entryOf]
        exact quoted_quote e.1
      have values : ∀ e ∈ (sortedEntries entries).map entryOf, Denotes e.2.1 e.2.2 := by
        rw [List.forall_mem_map]
        exact fun e mem => ih e (mem_sortedEntries.mp mem)
      have dict := Denotes.dict distinctKeys keys values
      simp only [List.map_map, Function.comp_def, entryOf, entryText] at dict
      rw [toList_literal_map, ordered, orderedEntries_eq_map, sortedEntries_map]
      exact dict

/-- What is written does not depend on the order in which the entries of a map are held. -/
theorem literal_ordered {v : Value} (plain : IsPlain v) : literal v.ordered = literal v := by
  induction plain with
  | @list items each ih =>
      have same : items.map (literal ∘ ordered) = items.map literal := List.map_congr_left ih
      rw [ordered, orderedAll_eq_map, literal, literal, literals_eq_map, literals_eq_map,
        List.map_map, same]
  | @map entries distinct each ih =>
      have same :
          ((sortedEntries entries).map fun e => (e.1, e.2.ordered)).map
              (fun e => (e.1, literal e.2)) =
            (sortedEntries entries).map fun e => (e.1, literal e.2) := by
        rw [List.map_map]
        exact List.map_congr_left fun e mem => congrArg (e.1, ·) (ih e (mem_sortedEntries.mp mem))
      rw [ordered, literal, literal, sortedEntries_literalEntries, sortedEntries_literalEntries,
        sortedEntries_sortedEntries, orderedEntries_eq_map, sortedEntries_map, same]
  | _ => rfl

theorem Denotes.unique {text : List Char} {v w : Value} (first : Denotes text v)
    (second : Denotes text w) : v = w := by
  have none : EndsNumber [] := nofun
  exact (first.determined second none none rfl).2

/-- What is written for a plain value reads back to the value and to no other, so it tells plain
values apart. What is written for a text is one complete text in quotes. -/
theorem literal_exact {v : Value} (plain : IsPlain v) :
    (∀ w, Denotes (literal v).toList w ↔ w = v.ordered) ∧
      (∀ w, IsPlain w → (literal v = literal w ↔ v.ordered = w.ordered)) ∧
      ∀ s, Quoted (quote s).toList s ∧
        ∀ front rest t, (quote s).toList = front ++ rest → Quoted front t → rest = [] ∧ t = s := by
  refine ⟨fun w => ⟨?_, ?_⟩, fun w plainOther => ⟨?_, ?_⟩, fun s => ⟨quoted_quote s, ?_⟩⟩
  · exact fun denotes => denotes.unique (denotes_literal plain)
  · rintro rfl
    exact denotes_literal plain
  · intro same
    have denotes := denotes_literal plainOther
    rw [← same] at denotes
    exact (denotes_literal plain).unique denotes
  · intro same
    rw [← literal_ordered plain, same, literal_ordered plainOther]
  · intro front rest t cut front
    rw [← List.append_nil (quote s).toList] at cut
    obtain ⟨_, name, tail⟩ := (quoted_quote s).determined front cut
    exact ⟨tail.symm, name.symm⟩

/-- A map with a list and a text that needs escapes, its keys out of order. -/
def menu : Value :=
  .map [("b", .list [.int (-7), .null, .bool Bool.true]), ("a", .str "it's\n")]

theorem literal_exact_menu :
    IsPlain menu ∧ literal menu = "\x7b'a': 'it\\'s\\n', 'b': [-7, None, True]\x7d" ∧
      menu.ordered = .map [("a", .str "it's\n"), ("b", .list [.int (-7), .null, .bool Bool.true])] ∧
      ∀ w, Denotes (literal menu).toList w ↔ w = menu.ordered := by
  have plain : IsPlain menu := by
    refine .map (by decide) ?_
    simp only [List.forall_mem_cons, List.not_mem_nil, false_implies, implies_true, and_true]
    refine ⟨.list ?_, .str _⟩
    simp only [List.forall_mem_cons, List.not_mem_nil, false_implies, implies_true, and_true]
    exact ⟨.int _, .null, .bool _⟩
  have sorted {V : Type} (x y : V) :
      sortedEntries [("b", x), ("a", y)] = [("a", y), ("b", x)] := by
    have greater : Text.le "b" "a" = false := by decide
    simp [sortedEntries, List.mergeSort, greater]
  refine ⟨plain, ?_, ?_, (literal_exact plain).1⟩
  · rw [menu, literal, literalEntries_eq_map, List.map_cons, List.map_cons, List.map_nil, sorted]
    decide +kernel
  · rw [menu, ordered, orderedEntries_eq_map, List.map_cons, List.map_cons, List.map_nil, sorted]
    rfl

end ApiCompiler.Python
