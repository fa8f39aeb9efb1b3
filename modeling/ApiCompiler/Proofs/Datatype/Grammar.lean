import ApiCompiler.Proofs.Datatype.Scan
import ApiCompiler.Proofs.Datatype.Tree
import ApiCompiler.Proofs.Text

/-!
# The grammar of type references

`Derives` states the grammar without a scanner: a reference is a name, or a name
with bracketed parameters that are references themselves. The reader accepts
exactly the derivable texts, and every text has at most one derivation.
-/

namespace ApiCompiler.Datatype

open Text

/-- A name has a character that is not blank, and no bracket. -/
structure IsName (name : String) : Prop where
  notBlank : isBlankText name = false
  noOpening : '[' ∉ name.toList
  noClosing : ']' ∉ name.toList

/-- The grammar of references. White space around a parameter is dropped, and a
comma in the name of a parameter would separate two parameters. -/
inductive Derives : String → Datatype → Prop
  | plain {name} (isName : IsName name) : Derives name (mk name none)
  | generic {name pieces params} (isName : IsName name) (nonempty : pieces ≠ [])
      (length_eq : pieces.length = params.length)
      (each : ∀ ⦃piece d⦄, (piece, d) ∈ pieces.zip params → Derives (trim piece) d)
      (noComma : ∀ d ∈ params, ',' ∉ d.name.toList) :
      Derives (name ++ "[" ++ joinWith "," pieces ++ "]") (mk name (some params))

theorem toList_generic (name : String) (pieces : List String) :
    (name ++ "[" ++ joinWith "," pieces ++ "]").toList =
      name.toList ++ '[' :: ([','].intercalate (pieces.map String.toList) ++ [']']) := by
  simp [joinWith, String.toList_intercalate]

@[simp]
theorem toList_trim (s : String) : (trim s).toList = trimBy isBlank s.toList :=
  String.toList_ofList

/-- Lists of one length pair every member of the first with one of the second. -/
theorem exists_mem_zip {α β : Type} {as : List α} {bs : List β}
    (length_eq : as.length = bs.length) {a : α} (mem : a ∈ as) : ∃ b, (a, b) ∈ as.zip bs := by
  rw [← List.map_fst_zip (Nat.le_of_eq length_eq)] at mem
  obtain ⟨⟨_, b⟩, paired, rfl⟩ := List.mem_map.mp mem
  exact ⟨b, paired⟩

/-- Lists of one length pair every member of the second with one of the first. -/
theorem exists_zip_mem {α β : Type} {as : List α} {bs : List β}
    (length_eq : as.length = bs.length) {b : β} (mem : b ∈ bs) : ∃ a, (a, b) ∈ as.zip bs := by
  rw [← List.map_snd_zip (Nat.le_of_eq length_eq.symm)] at mem
  obtain ⟨⟨a, _⟩, paired, rfl⟩ := List.mem_map.mp mem
  exact ⟨a, paired⟩

/-! ## Derivable texts pass the scanner -/

theorem passes_of_blank {cs : List Char} (blank : ∀ c ∈ cs, isBlank c = true) : Passes 0 cs := by
  have free {c : Char} (visible : isBlank c = false) : c ∉ cs := by
    intro mem
    rw [blank c mem] at visible
    contradiction
  exact Passes.of_plain (free (by decide)) (free (by decide)) fun mem =>
    absurd mem (free (by decide))

/-- White space at the ends does not keep a text from passing. -/
theorem passes_of_trim {piece : String} (passes : Passes 0 (trim piece).toList) :
    Passes 0 piece.toList := by
  obtain ⟨front, back, split, frontBlank, backBlank⟩ := exists_ends_trimBy isBlank piece.toList
  rw [split]
  rw [toList_trim] at passes
  exact ((passes_of_blank frontBlank).append passes).append (passes_of_blank backBlank)

theorem IsName.passes {name : String} (isName : IsName name) : Passes 1 name.toList :=
  Passes.of_plain isName.noOpening isName.noClosing fun _ => Nat.one_pos

/-- A derivable text closes its brackets, so it passes inside brackets, and
without a comma in its name also between the commas of a list. -/
theorem Derives.passes {s : String} {d : Datatype} (derives : Derives s d) :
    Passes 1 s.toList ∧ (',' ∉ d.name.toList → Passes 0 s.toList) := by
  induction derives with
  | plain isName =>
      refine ⟨isName.passes, fun noComma => ?_⟩
      exact Passes.of_plain isName.noOpening isName.noClosing fun mem => absurd mem noComma
  | @generic name pieces params isName _ length_eq _ noComma ih =>
      have pass : ∀ p ∈ pieces.map String.toList, Passes 1 p := by
        intro p mem
        obtain ⟨piece, pieceMem, rfl⟩ := List.mem_map.mp mem
        obtain ⟨d, paired⟩ := exists_mem_zip length_eq pieceMem
        have outside := (ih paired).2 (noComma d (List.of_mem_zip paired).2)
        exact (passes_of_trim outside).mono (Nat.zero_le 1)
      have list := (Passes.intercalate pass).bracketed
      rw [toList_generic]
      constructor
      · exact isName.passes.append (list.mono (Nat.zero_le 1))
      · intro nameFree
        have plainName : Passes 0 name.toList :=
          Passes.of_plain isName.noOpening isName.noClosing fun mem => absurd mem nameFree
        exact plainName.append list

theorem NoLeadingComma.trimBy {cs : List Char} (free : NoLeadingComma cs) :
    NoLeadingComma (trimBy isBlank cs) := by
  obtain ⟨front, back, split, frontBlank, _⟩ := exists_ends_trimBy isBlank cs
  have skip : ∀ c ∈ front, (c != '[') = true := by
    intro c mem
    rw [bne_iff_ne]
    rintro rfl
    exact absurd (frontBlank _ mem) (by decide)
  rw [split, NoLeadingComma, List.append_assoc, List.takeWhile_append_of_pos skip] at free
  intro mem
  apply free
  apply List.mem_append_right
  rw [List.takeWhile_append]
  split
  · exact List.mem_append_left _ ((List.takeWhile_sublist _).subset mem)
  · exact mem

/-- A derivable text begins with the name, up to its first bracket. -/
theorem Derives.toList_name {s : String} {d : Datatype} (derives : Derives s d) :
    d.name.toList = s.toList.takeWhile (· != '[') := by
  have visible {name : String} (isName : IsName name) : ∀ c ∈ name.toList, (c != '[') = true := by
    intro c mem
    rw [bne_iff_ne]
    rintro rfl
    exact isName.noOpening mem
  cases derives with
  | plain isName => exact (List.takeWhile_eq_self_iff.mpr (visible isName)).symm
  | generic isName _ _ _ _ =>
      rw [toList_generic, List.takeWhile_append_of_pos (visible isName)]
      simp

theorem Derives.exists_visible {s : String} {d : Datatype} (derives : Derives s d) :
    ∃ c ∈ s.toList, isBlank c = false := by
  cases derives with
  | plain isName => simpa [isBlankText, List.all_eq_false] using isName.notBlank
  | generic isName _ _ _ _ => exact ⟨'[', by simp, by decide⟩

/-- A text whose trimmed part is derivable is not blank. -/
theorem Derives.all_isBlank_of_trim {piece : String} {d : Datatype}
    (derives : Derives (trim piece) d) : piece.toList.all isBlank = false := by
  obtain ⟨front, back, split, _, _⟩ := exists_ends_trimBy isBlank piece.toList
  obtain ⟨c, mem, visible⟩ := derives.exists_visible
  rw [List.all_eq_false]
  refine ⟨c, ?_, by simp [visible]⟩
  rw [split, ← toList_trim]
  exact List.mem_append_left back (List.mem_append_right front mem)

/-! ## The reader -/

theorem isName_ofList_iff {cs : List Char} :
    IsName (String.ofList cs) ↔ cs.all isBlank = false ∧ '[' ∉ cs ∧ ']' ∉ cs := by
  constructor
  · rintro ⟨notBlank, noOpening, noClosing⟩
    simp only [isBlankText, String.toList_ofList] at notBlank noOpening noClosing
    exact ⟨notBlank, noOpening, noClosing⟩
  · rintro ⟨notBlank, noOpening, noClosing⟩
    exact ⟨by rwa [isBlankText, String.toList_ofList], by rwa [String.toList_ofList],
      by rwa [String.toList_ofList]⟩

/-- A text without brackets is cut into its name alone. -/
theorem cutReference_eq_plain_iff {cs name : List Char} :
    cutReference cs = .ok (name, none) ↔ name = cs ∧ IsName (String.ofList cs) := by
  rw [isName_ofList_iff, cutReference]
  cases found : cutAt '[' cs with
  | none =>
      have noOpening := cutAt_eq_none_iff.mp found
      by_cases closing : ']' ∈ cs
      · simp [closing]
      · cases cs.all isBlank <;> simp [closing, noOpening, eq_comm]
  | some parts =>
      obtain ⟨before, after⟩ := parts
      obtain ⟨rfl, _⟩ := cutAt_eq_some_iff.mp found
      dsimp only
      split
      · simp
      · split
        · simp
        · split
          · simp
          · split <;> simp

/-- A text with a parameter list is cut into its name and the pieces of the list,
none of which is blank. -/
theorem cutReference_eq_generic_iff {cs name : List Char} {pieces : List (List Char)} :
    cutReference cs = .ok (name, some pieces) ↔
      IsName (String.ofList name) ∧
        ∃ rest, cs = name ++ '[' :: rest ∧ Cuts 0 rest pieces ∧
          ∀ p ∈ pieces, p.all isBlank = false := by
  rw [isName_ofList_iff, cutReference]
  cases found : cutAt '[' cs with
  | none =>
      have noOpening := cutAt_eq_none_iff.mp found
      constructor
      · intro cut
        dsimp only at cut
        split at cut
        · simp at cut
        · split at cut <;> simp at cut
      · rintro ⟨_, rest, rfl, _⟩
        simp at noOpening
  | some parts =>
      obtain ⟨before, after⟩ := parts
      obtain ⟨rfl, noOpening⟩ := cutAt_eq_some_iff.mp found
      constructor
      · intro cut
        dsimp only at cut
        split at cut
        · simp at cut
        · rename_i notBlank
          split at cut
          · simp at cut
          · rename_i noClosing
            split at cut
            · simp at cut
            · rename_i inner
              split at cut
              · simp at cut
              · rename_i visible
                cases cut
                refine ⟨⟨by simpa using notBlank, noOpening, by simpa using noClosing⟩,
                  after, rfl, .of_cutParams inner, ?_⟩
                simpa using visible
      · rintro ⟨⟨notBlank, nameOpening, noClosing⟩, rest, split, cuts, visible⟩
        have same := cutAt_eq_some_iff.mpr ⟨split, nameOpening⟩
        rw [found, Option.some.injEq, Prod.mk.injEq] at same
        obtain ⟨rfl, rfl⟩ := same
        have noneBlank : ¬(pieces.any (·.all isBlank) = true) := by
          simpa using visible
        simp only [notBlank, List.contains_eq_mem, noClosing, cuts.cutParams_eq,
          if_neg noneBlank, decide_false, Bool.false_eq_true, if_false]

/-- The recursion of the reader, without the bookkeeping that ends it. -/
theorem ofChars_eq (cs : List Char) :
    ofChars cs =
      match cutReference cs with
      | .error flaw => .error flaw
      | .ok (name, none) => .ok (mk (String.ofList name) none)
      | .ok (name, some pieces) =>
          (pieces.mapM fun piece => ofChars (trimBy isBlank piece)).map fun params =>
            mk (String.ofList name) (some params) := by
  rw [ofChars]
  split
  · rename_i flaw found
    rw [found]
  · rename_i name found
    rw [found]
  · rename_i name pieces found
    rw [List.mapM_subtype (g := fun piece => ofChars (trimBy isBlank piece)) fun _ _ => rfl,
      List.unattach_attach]
    simp only [found]
    rfl

/-- The reader accepts every derivable text. -/
theorem Derives.ofChars_eq {s : String} {d : Datatype} (derives : Derives s d) :
    ofChars s.toList = .ok d := by
  induction derives with
  | @plain name isName =>
      have cut := cutReference_eq_plain_iff.mpr
        ⟨rfl, show IsName (String.ofList name.toList) by rwa [String.ofList_toList]⟩
      rw [Datatype.ofChars_eq, cut]
      dsimp only
      rw [String.ofList_toList]
  | @generic name pieces params isName nonempty length_eq each noComma ih =>
      have pass : ∀ p ∈ pieces.map String.toList, Passes 0 p ∧ p.all isBlank = false := by
        intro p mem
        obtain ⟨piece, pieceMem, rfl⟩ := List.mem_map.mp mem
        obtain ⟨d, paired⟩ := exists_mem_zip length_eq pieceMem
        have derived := each paired
        have free := noComma d (List.of_mem_zip paired).2
        exact ⟨passes_of_trim (derived.passes.2 free), derived.all_isBlank_of_trim⟩
      have cuts := cuts_intercalate (by simpa using nonempty) fun p mem => (pass p mem).1
      have cut := cutReference_eq_generic_iff.mpr
        ⟨show IsName (String.ofList name.toList) by rwa [String.ofList_toList],
          _, rfl, cuts, fun p mem => (pass p mem).2⟩
      have converted : (pieces.map String.toList).mapM
          (fun piece => ofChars (trimBy isBlank piece)) = .ok params := by
        rw [Fallible.mapM_eq_ok_iff, List.forall₂_map_left_iff, List.forall₂_iff_zip]
        refine ⟨length_eq, fun paired => ?_⟩
        rw [← toList_trim]
        exact ih paired
      rw [toList_generic, Datatype.ofChars_eq, cut]
      dsimp only
      rw [converted, String.ofList_toList]
      rfl

/-- What the reader accepts is derivable. The pieces of a list are shorter than
the text, so their readings are derivable first. -/
theorem Derives.of_ofChars {cs : List Char} {d : Datatype} (read : ofChars cs = .ok d) :
    Derives (String.ofList cs) d := by
  induction size : cs.length using Nat.strong_induction_on generalizing cs d with
  | h n ih =>
      subst size
      rw [Datatype.ofChars_eq] at read
      split at read
      · contradiction
      · rename_i name cut
        cases read
        obtain ⟨rfl, isName⟩ := cutReference_eq_plain_iff.mp cut
        exact .plain isName
      · rename_i name pieces cut
        obtain ⟨isName, rest, rfl, cuts, _⟩ := cutReference_eq_generic_iff.mp cut
        obtain ⟨params, converted, rfl⟩ := Fallible.map_eq_ok_iff.mp read
        obtain ⟨length_eq, pairs⟩ :=
          List.forall₂_iff_zip.mp (Fallible.mapM_eq_ok_iff.mp converted)
        have derived {piece : List Char} {param : Datatype}
            (paired : (piece, param) ∈ pieces.zip params) :
            Derives (trim (String.ofList piece)) param := by
          have shorter : (trimBy isBlank piece).length < (name ++ '[' :: rest).length :=
            Nat.lt_of_le_of_lt (length_trimBy_le isBlank piece)
              (length_lt_of_cutReference cut piece (List.of_mem_zip paired).1)
          rw [trim, String.toList_ofList]
          exact ih _ shorter (pairs paired) rfl
        have text : String.ofList (name ++ '[' :: rest) =
            String.ofList name ++ "[" ++ joinWith "," (pieces.map String.ofList) ++ "]" := by
          rw [← String.toList_inj, toList_generic, String.toList_ofList, String.toList_ofList,
            cuts.eq_intercalate, List.map_map]
          simp [Function.comp_def]
        rw [text]
        refine .generic isName (by simpa using cuts.ne_nil) (by simpa using length_eq) ?_ ?_
        · intro piece param paired
          rw [List.zip_map_left] at paired
          obtain ⟨⟨chars, node⟩, source, eq⟩ := List.mem_map.mp paired
          cases eq
          exact derived source
        · intro param mem
          obtain ⟨piece, paired⟩ := exists_zip_mem length_eq mem
          have free := cuts.noLeadingComma.2 rfl piece (List.of_mem_zip paired).1
          rw [(derived paired).toList_name, toList_trim, String.toList_ofList]
          exact free.trimBy

/-- The reader returns a tree exactly if the grammar derives it. -/
theorem parse_eq_ok_iff {s : String} {d : Datatype} : parse s = .ok d ↔ Derives s d := by
  rw [parse]
  constructor
  · intro read
    split at read
    · rename_i found
      cases read
      rw [← String.ofList_toList (s := s)]
      exact .of_ofChars found
    · contradiction
  · intro derives
    rw [derives.ofChars_eq]

/-- A text has at most one derivation. -/
theorem Derives.unique {s : String} {d e : Datatype} (left : Derives s d) (right : Derives s e) :
    d = e :=
  Except.ok.inj ((parse_eq_ok_iff.mpr left).symm.trans (parse_eq_ok_iff.mpr right))

/-- A text that is not read is reported whole. -/
theorem parse_eq_error_of_not_derives {s : String} (underivable : ∀ d, ¬Derives s d) :
    ∃ flaw, parse s = .error (.datatype s flaw) := by
  cases read : ofChars s.toList with
  | ok d => exact absurd (parse_eq_ok_iff.mp (by rw [parse, read])) (underivable d)
  | error flaw => exact ⟨flaw, by rw [parse, read]⟩

/-- The reader accepts exactly the grammar and reads it in one way only: it returns a tree
exactly if the text derives it, at most one tree is derivable, and exactly the texts without a
derivation are reported, as a bad type format and with the complete text. -/
theorem parse_exact (s : String) :
    (∀ d, parse s = .ok d ↔ Derives s d) ∧
      (∀ d e, Derives s d → Derives s e → d = e) ∧
      ((¬∃ d, Derives s d) ↔
        ∃ flaw, parse s = .error (.datatype s flaw) ∧
          (Error.datatype s flaw).isA .badTypeFormat = true) := by
  refine ⟨fun d => parse_eq_ok_iff, fun d e left right => left.unique right, ?_, ?_⟩
  · intro underivable
    obtain ⟨flaw, failed⟩ := parse_eq_error_of_not_derives fun d derives => underivable ⟨d, derives⟩
    exact ⟨flaw, failed, rfl⟩
  · rintro ⟨flaw, failed, _⟩ ⟨d, derives⟩
    rw [parse_eq_ok_iff.mpr derives] at failed
    contradiction

/-- The fault of a nested parameter is reported with the complete text. -/
example :
    parse "list[map[string, ]]" = .error (.datatype "list[map[string, ]]" .emptyParameter) := by
  cbv

end ApiCompiler.Datatype
