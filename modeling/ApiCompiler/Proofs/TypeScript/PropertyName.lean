import ApiCompiler.Proofs.Go.Script
import ApiCompiler.Proofs.Module.Valid
import ApiCompiler.Target.TypeScript.Name
import ApiCompiler.Text.Utf8
import Mathlib.Data.List.Nodup

/-!
# Names of properties

Which names stand bare and which are quoted. Only the first byte of a name is tested for a digit.
No byte of a longer character is one, so a decimal digit outside of ASCII may begin a bare name.
Different names are written differently in any case.
-/

namespace ApiCompiler

open Text

namespace Text

/-! ## First bytes -/

theorem Utf8.encode_ofList (cs : List Char) :
    Utf8.encode (String.ofList cs) = cs.flatMap String.utf8EncodeChar := by
  rw [Utf8.encode, String.toUTF8, String.toByteArray_ofList, List.utf8Encode]
  simp

theorem isDigit_of_lt {c : Char} (ascii : c.toNat < 0x80) : isDigit c = c.isDigit := by
  rw [isDigit, if_pos ascii]

theorem toNat_lt_of_isDigit {c : Char} (digit : c.isDigit = true) : c.toNat < 0x80 := by
  have last := (Bool.and_eq_true_iff.mp digit).2
  exact Nat.lt_of_le_of_lt (UInt32.le_iff_toNat_le.mp (of_decide_eq_true last)) (by decide)

theorem isDigit_of_ascii {c : Char} (digit : c.isDigit = true) : isDigit c = true :=
  (isDigit_of_lt (toNat_lt_of_isDigit digit)).trans digit

/-- No code point of the second half of a byte is a decimal digit. -/
theorem isDigit_ofNat_of_byte {n : Nat} (high : 0x80 ≤ n) (byte : n < 0x100) :
    isDigit (Char.ofNat n) = false := by
  have apart : ∀ s ∈ digitSpans, s.last < 0x80 ∨ 0x100 ≤ s.first := by decide
  have valid : n.isValidChar := .inl (Nat.lt_trans byte (by decide))
  have value : (Char.ofNat n).toNat = n := by
    rw [Char.ofNat, dif_pos valid]
    rfl
  rw [isDigit, value, if_neg (Nat.not_lt.mpr high), Span.covers, List.any_eq_false]
  intro s mem
  simp only [Span.contains, Bool.and_eq_true, decide_eq_true_eq]
  rcases apart s mem with before | behind
  · omega
  · omega

/-- The first byte of a character is a decimal digit exactly if the character is one of ASCII. -/
theorem isDigit_lead (c : Char) : ∃ byte rest, String.utf8EncodeChar c = byte :: rest ∧
    isDigit (Char.ofNat byte.toNat) = c.isDigit := by
  by_cases ascii : c.toNat < 0x80
  · refine ⟨UInt8.ofNat c.toNat, [], ?_, ?_⟩
    · exact if_pos (Nat.le_of_lt_succ ascii)
    · have same : (UInt8.ofNat c.toNat).toNat = c.toNat :=
        UInt8.toNat_ofNat_of_lt' (Nat.lt_trans ascii (by decide))
      rw [same, Char.ofNat_toNat, isDigit_of_lt ascii]
  · have plain : c.isDigit = false := by
      rw [Bool.eq_false_iff]
      exact fun digit => ascii (toNat_lt_of_isDigit digit)
    -- the first byte of a longer character is 192 plus a few bits
    have lead (bits : Nat) (few : bits < 0x40) :
        isDigit (Char.ofNat (UInt8.ofNat (bits + 0xC0)).toNat) = c.isDigit := by
      have same : (UInt8.ofNat (bits + 0xC0)).toNat = bits + 0xC0 :=
        UInt8.toNat_ofNat_of_lt' (by simp only [UInt8.size]; omega)
      rw [same, isDigit_ofNat_of_byte (by omega) (by omega), plain]
    have long : ¬c.val.toNat ≤ 0x7F := fun short => ascii (Nat.lt_succ_of_le short)
    unfold String.utf8EncodeChar
    dsimp only
    rw [if_neg long]
    split
    · exact ⟨_, _, rfl, lead _ (by omega)⟩
    · split
      · exact ⟨_, _, rfl, lead (c.val.toNat / 4096 % 16 + 0x20) (by omega)⟩
      · exact ⟨_, _, rfl, lead (c.val.toNat / 262144 % 8 + 0x30) (by omega)⟩

/-- What stands between double quotes is known from the quoted text. -/
theorem quote_injective : Function.Injective quote := by
  intro s t same
  have read := Go.Script.scan_quote s
  rw [same, Go.Script.scan_quote] at read
  cases read
  rfl

theorem Quoted.escape_ne_nil (c : Char) : Quoted.escape c ≠ [] := by
  unfold Quoted.escape Quoted.codePoint
  repeat' split
  all_goals exact List.cons_ne_nil _ _

theorem Quoted.length_le_encode (cs : List Char) : cs.length ≤ (Quoted.encode cs).length := by
  induction cs with
  | nil => exact Nat.le_refl 0
  | cons c cs ih =>
      have some : 0 < (Quoted.escape c).length := List.length_pos_iff.mpr (escape_ne_nil c)
      rw [Quoted.encode, List.flatMap_cons, ← Quoted.encode, List.length_append, List.length_cons]
      omega

theorem quote_ne_self (s : String) : quote s ≠ s := by
  intro same
  have length := congrArg (List.length ∘ String.toList) same
  simp only [Function.comp, quote, String.toList_ofList, List.length_append, List.length_cons]
    at length
  have longer := Quoted.length_le_encode s.toList
  omega

end Text

namespace TypeScript

/-- A letter, a decimal digit, an underscore or a dollar sign. -/
def IsWordChar (c : Char) : Prop := isLetter c = true ∨ isDigit c = true ∨ c = '_' ∨ c = '$'

/-- A name that stands bare: it begins with no digit of ASCII and has only characters of words. -/
def IsBare (name : String) : Prop :=
  ∃ first rest, name.toList = first :: rest ∧ first.isDigit = false ∧
    ∀ c ∈ name.toList, IsWordChar c

/-- A word: it begins with no decimal digit and has only characters of words. -/
def IsWord (name : String) : Prop :=
  ∃ first rest, name.toList = first :: rest ∧ isDigit first = false ∧
    ∀ c ∈ name.toList, IsWordChar c

/-- A decimal digit outside of ASCII, and only characters of words behind it. -/
def LeadsWithForeignDigit (name : String) : Prop :=
  ∃ first rest, name.toList = first :: rest ∧ isDigit first = true ∧ first.isDigit = false ∧
    ∀ c ∈ rest, IsWordChar c

theorem isIdentifierChar_iff {c : Char} : isIdentifierChar c = true ↔ IsWordChar c := by
  simp only [isIdentifierChar, IsWordChar, Bool.or_eq_true, beq_iff_eq, or_assoc]

theorem isIdentifier_iff {name : String} : isIdentifier name = true ↔ IsBare name := by
  unfold isIdentifier IsBare
  cases name.toList with
  | nil => simp
  | cons c rest =>
      simp only [Bool.and_eq_true, Bool.not_eq_true', List.all_eq_true, isIdentifierChar_iff]
      constructor
      · rintro ⟨start, word⟩
        exact ⟨c, rest, rfl, start, word⟩
      · rintro ⟨_, _, same, start, word⟩
        cases same
        exact ⟨start, word⟩

/-- In terms of bytes: the first byte, taken as a character, is no decimal digit. -/
theorem isBare_iff_bytes {name : String} :
    IsBare name ↔ (∃ byte bytes, Utf8.encode name = byte :: bytes ∧
      isDigit (Char.ofNat byte.toNat) = false) ∧ ∀ c ∈ name.toList, IsWordChar c := by
  obtain ⟨cs, rfl⟩ : ∃ cs, name = String.ofList cs := ⟨name.toList, String.ofList_toList.symm⟩
  rw [IsBare, Utf8.encode_ofList, String.toList_ofList]
  cases cs with
  | nil => simp
  | cons c rest =>
      obtain ⟨byte, more, encoded, digit⟩ := isDigit_lead c
      rw [List.flatMap_cons, encoded, List.cons_append]
      constructor
      · rintro ⟨_, _, same, start, word⟩
        cases same
        exact ⟨⟨byte, _, rfl, digit.trans start⟩, word⟩
      · rintro ⟨⟨_, _, same, start⟩, word⟩
        cases same
        exact ⟨c, rest, rfl, digit.symm.trans start, word⟩

/-- Among the names that stand bare only those with a foreign digit in front are no words. -/
theorem isBare_iff {name : String} : IsBare name ↔ IsWord name ∨ LeadsWithForeignDigit name := by
  constructor
  · rintro ⟨first, rest, split, start, word⟩
    cases digit : isDigit first with
    | false => exact .inl ⟨first, rest, split, digit, word⟩
    | true =>
        rw [split, List.forall_mem_cons] at word
        exact .inr ⟨first, rest, split, digit, start, word.2⟩
  · rintro (⟨first, rest, split, plain, word⟩ | ⟨first, rest, split, digit, start, word⟩)
    · have start : first.isDigit = false := by
        rw [Bool.eq_false_iff]
        exact fun ascii => Bool.eq_false_iff.mp plain (isDigit_of_ascii ascii)
      exact ⟨first, rest, split, start, word⟩
    · refine ⟨first, rest, split, start, ?_⟩
      rw [split]
      exact List.forall_mem_cons.mpr ⟨.inr (.inl digit), word⟩

theorem LeadsWithForeignDigit.not_isWord {name : String} (leads : LeadsWithForeignDigit name) :
    ¬IsWord name := by
  rintro ⟨first, rest, split, plain, -⟩
  obtain ⟨_, _, split', digit, -⟩ := leads
  cases split.symm.trans split'
  exact Bool.eq_false_iff.mp plain digit

theorem isBare_iff_isWord {name : String} :
    (IsBare name ↔ IsWord name) ↔ ¬LeadsWithForeignDigit name := by
  rw [isBare_iff]
  constructor
  · intro same leads
    exact leads.not_isWord (same.mp (.inr leads))
  · intro clean
    exact or_iff_left clean

theorem propertyName_of_isBare {name : String} (bare : IsBare name) : propertyName name = name :=
  if_pos (isIdentifier_iff.mpr bare)

theorem propertyName_of_not_isBare {name : String} (other : ¬IsBare name) :
    propertyName name = quote name :=
  if_neg fun identifier => other (isIdentifier_iff.mp identifier)

/-- A quoted text does not stand bare: it begins with a quote. -/
theorem not_isBare_quote (s : String) : ¬IsBare (quote s) := by
  rintro ⟨_, _, -, -, word⟩
  have quotes : isIdentifierChar '"' = true :=
    isIdentifierChar_iff.mpr (word '"' (by simp [quote]))
  exact absurd quotes (by decide)

theorem propertyName_eq_self_iff {name : String} : propertyName name = name ↔ IsBare name := by
  constructor
  · intro same
    by_contra other
    rw [propertyName_of_not_isBare other] at same
    exact quote_ne_self name same
  · exact propertyName_of_isBare

theorem propertyName_injective : Function.Injective propertyName := by
  intro s t same
  by_cases bare : IsBare s
  · rw [propertyName_of_isBare bare] at same
    by_cases bare' : IsBare t
    · rw [same, propertyName_of_isBare bare']
    · rw [same, propertyName_of_not_isBare bare'] at bare
      exact absurd bare (not_isBare_quote t)
  · rw [propertyName_of_not_isBare bare] at same
    by_cases bare' : IsBare t
    · rw [propertyName_of_isBare bare'] at same
      exact absurd (same ▸ bare') (not_isBare_quote s)
    · rw [propertyName_of_not_isBare bare'] at same
      exact quote_injective same

theorem nodup_propertyNames {names : List String} (distinct : names.Nodup) :
    (names.map propertyName).Nodup :=
  List.Nodup.map propertyName_injective distinct

/-- A name stands bare exactly if its first character is no digit of ASCII and all its characters
are letters, decimal digits, underscores or dollar signs, and it is quoted otherwise. That is the
test of the first byte: no decimal digit outside of ASCII has a first byte that is one. So the
names that stand bare are the words, unless such a digit stands in front. Different names are
written differently; so the keys of a struct, a union, an error, a service and an endpoint are
different. -/
theorem propertyName_exact (name : String) :
    (propertyName name = name ↔ IsBare name) ∧
    (propertyName name = quote name ↔ ¬IsBare name) ∧
    (IsBare name ↔ (∃ byte bytes, Utf8.encode name = byte :: bytes ∧
      isDigit (Char.ofNat byte.toNat) = false) ∧ ∀ c ∈ name.toList, IsWordChar c) ∧
    ((propertyName name = name ↔ IsWord name) ↔ ¬LeadsWithForeignDigit name) ∧
    (∀ other, propertyName name = propertyName other ↔ name = other) ∧
    (∀ t : TypeDecl, (((OrderedMap.entriesOf t.fields).map (·.1)).map propertyName).Nodup ∧
      (((OrderedMap.entriesOf t.union).map (·.1)).map propertyName).Nodup) ∧
    (∀ e : ErrorDecl, (((OrderedMap.entriesOf e.fields).map (·.1)).map propertyName).Nodup) ∧
    (∀ m : Module, ((m.endpointList.map (·.1)).map propertyName).Nodup) ∧
    ∀ e : Endpoint, ((e.argumentList.map (·.1)).map propertyName).Nodup := by
  refine ⟨propertyName_eq_self_iff, ?quoted, isBare_iff_bytes, ?words,
    fun other => propertyName_injective.eq_iff, ?types, ?errors, ?services, ?endpoints⟩
  case quoted =>
    constructor
    · intro same bare
      rw [propertyName_of_isBare bare] at same
      exact quote_ne_self name same.symm
    · exact propertyName_of_not_isBare
  case words => rw [propertyName_eq_self_iff, isBare_iff_isWord]
  case types =>
    intro t
    exact ⟨nodup_propertyNames (OrderedMap.nodup_keys_entriesOf t.fields),
      nodup_propertyNames (OrderedMap.nodup_keys_entriesOf t.union)⟩
  case errors =>
    intro e
    exact nodup_propertyNames (OrderedMap.nodup_keys_entriesOf e.fields)
  case services =>
    intro m
    exact nodup_propertyNames (Module.nodup_defined m.endpoints)
  case endpoints =>
    intro e
    exact nodup_propertyNames e.nodup_argumentList

/-- An Arabic digit may begin a bare name. -/
theorem propertyName_begins_with_digit :
    propertyName "\u0663a" = "\u0663a" ∧ isDigit '\u0663' = true := by
  have digit : isDigit '\u0663' = true := by decide
  have bare : IsBare "\u0663a" := by
    refine ⟨'\u0663', ['a'], rfl, by decide, ?_⟩
    have letter : IsWordChar 'a' := .inl (by decide)
    exact List.forall_mem_cons.mpr ⟨.inr (.inl digit), List.forall_mem_singleton.mpr letter⟩
  exact ⟨propertyName_of_isBare bare, digit⟩

end TypeScript

end ApiCompiler
