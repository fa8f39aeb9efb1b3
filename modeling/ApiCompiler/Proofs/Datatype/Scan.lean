import ApiCompiler.Datatype
import ApiCompiler.Proofs.Fallible
import ApiCompiler.Proofs.Text

/-!
# The scanner of parameter lists

`Cuts` is the relation that `cutParams` computes: one rule for every character
the scanner may meet. A text that closes every bracket it opens passes the
scanner as part of a single piece; the pieces of a list and the commas between
them are exactly the text that was cut.
-/

namespace ApiCompiler.Datatype

open Text

/-- Scanning with `depth` open brackets up to the bracket that closes the list. -/
inductive Cuts : Nat → List Char → List (List Char) → Prop
  | close : Cuts 0 [']'] [[]]
  | comma {rest pieces} : Cuts 0 rest pieces → Cuts 0 (',' :: rest) ([] :: pieces)
  | opening {depth rest pieces} :
      Cuts (depth + 1) rest pieces → Cuts depth ('[' :: rest) (ontoFirst '[' pieces)
  | closing {depth rest pieces} :
      Cuts depth rest pieces → Cuts (depth + 1) (']' :: rest) (ontoFirst ']' pieces)
  | other {depth c rest pieces} : c ≠ '[' → c ≠ ']' → (c = ',' → 0 < depth) →
      Cuts depth rest pieces → Cuts depth (c :: rest) (ontoFirst c pieces)

theorem Cuts.cutParams_eq {depth : Nat} {cs : List Char} {pieces : List (List Char)}
    (cuts : Cuts depth cs pieces) : cutParams depth cs = .ok pieces := by
  induction cuts with
  | close => rfl
  | comma _ ih => simp [cutParams, ih, Except.map]
  | opening _ ih => simp [cutParams, ih, Except.map]
  | closing _ ih => simp [cutParams, ih, Except.map]
  | @other depth c rest pieces notOpening notClosing inside _ ih =>
      have notSeparator : ¬(c = ',' ∧ depth = 0) := by
        rintro ⟨isComma, outside⟩
        exact Nat.ne_of_gt (inside isComma) outside
      simp [cutParams, notOpening, notClosing, notSeparator, ih, Except.map]

theorem Cuts.of_cutParams {depth : Nat} {cs : List Char} {pieces : List (List Char)}
    (cut : cutParams depth cs = .ok pieces) : Cuts depth cs pieces := by
  induction cs generalizing depth pieces with
  | nil => simp [cutParams] at cut
  | cons c rest ih =>
      rw [cutParams.eq_def] at cut
      dsimp only at cut
      by_cases isOpening : c = '['
      · rw [if_pos isOpening] at cut
        obtain ⟨found, inner, rfl⟩ := Fallible.map_eq_ok_iff.mp cut
        subst c
        exact .opening (ih inner)
      rw [if_neg isOpening] at cut
      by_cases isClosing : c = ']'
      · rw [if_pos isClosing] at cut
        subst c
        cases depth with
        | zero =>
            cases rest with
            | nil =>
                cases cut
                exact .close
            | cons d rest => simp at cut
        | succ depth =>
            obtain ⟨found, inner, rfl⟩ := Fallible.map_eq_ok_iff.mp cut
            exact .closing (ih inner)
      rw [if_neg isClosing] at cut
      by_cases separates : c = ',' ∧ depth = 0
      · obtain ⟨rfl, rfl⟩ := separates
        obtain ⟨found, inner, rfl⟩ := Fallible.map_eq_ok_iff.mp cut
        exact .comma (ih inner)
      · rw [if_neg (by simpa using separates)] at cut
        obtain ⟨found, inner, rfl⟩ := Fallible.map_eq_ok_iff.mp cut
        have inside : c = ',' → 0 < depth := fun isComma =>
          Nat.pos_of_ne_zero fun outside => separates ⟨isComma, outside⟩
        exact .other isOpening isClosing inside (ih inner)

/-! ## Texts that pass as part of one piece -/

/-- Puts a text in front of the first piece. -/
def onto (cs : List Char) (pieces : List (List Char)) : List (List Char) :=
  cs.foldr ontoFirst pieces

theorem onto_cons (cs piece : List Char) (pieces : List (List Char)) :
    onto cs (piece :: pieces) = (cs ++ piece) :: pieces := by
  induction cs with
  | nil => rfl
  | cons c rest ih =>
      rw [onto, List.foldr_cons, ← onto, ih]
      rfl

/-- With at least `floor` open brackets, scanning a text only extends the piece
that is being read. -/
def Passes (floor : Nat) (cs : List Char) : Prop :=
  ∀ ⦃depth rest pieces⦄, floor ≤ depth → Cuts depth rest pieces →
    Cuts depth (cs ++ rest) (onto cs pieces)

theorem Passes.nil (floor : Nat) : Passes floor [] :=
  fun _ _ _ _ cuts => cuts

theorem Passes.mono {low high : Nat} {cs : List Char} (le : low ≤ high) (passes : Passes low cs) :
    Passes high cs :=
  fun _ _ _ bound cuts => passes (Nat.le_trans le bound) cuts

theorem Passes.append {floor : Nat} {front back : List Char}
    (first : Passes floor front) (second : Passes floor back) : Passes floor (front ++ back) := by
  intro depth rest pieces bound cuts
  rw [List.append_assoc, onto, List.foldr_append]
  exact first bound (second bound cuts)

theorem Passes.singleton {floor : Nat} {c : Char} (notOpening : c ≠ '[') (notClosing : c ≠ ']')
    (inside : c = ',' → 0 < floor) : Passes floor [c] := by
  intro depth rest pieces bound cuts
  exact .other notOpening notClosing (fun isComma => Nat.lt_of_lt_of_le (inside isComma) bound) cuts

/-- A text without brackets passes inside a piece, and where commas separate if
it has none. -/
theorem Passes.of_plain {floor : Nat} {cs : List Char} (noOpening : '[' ∉ cs)
    (noClosing : ']' ∉ cs) (inside : ',' ∈ cs → 0 < floor) : Passes floor cs := by
  induction cs with
  | nil => exact Passes.nil floor
  | cons c rest ih =>
      simp only [List.mem_cons, not_or] at noOpening noClosing
      have first : Passes floor [c] := Passes.singleton (Ne.symm noOpening.1)
        (Ne.symm noClosing.1) fun isComma => inside (isComma ▸ List.mem_cons_self)
      exact first.append (ih noOpening.2 noClosing.2 fun mem =>
        inside (List.mem_cons_of_mem c mem))

/-- Brackets around a text hide its commas. -/
theorem Passes.bracketed {cs : List Char} (inner : Passes 1 cs) :
    Passes 0 ('[' :: (cs ++ [']'])) := by
  intro depth rest pieces _ cuts
  have closed : Cuts (depth + 1) (cs ++ ']' :: rest) (onto cs (ontoFirst ']' pieces)) :=
    inner (Nat.le_add_left 1 depth) (.closing cuts)
  have eq : onto ('[' :: (cs ++ [']'])) pieces =
      ontoFirst '[' (onto cs (ontoFirst ']' pieces)) := by
    simp [onto]
  rw [eq, List.cons_append, List.append_assoc]
  exact .opening closed

/-- Inside brackets the commas between pieces are part of the piece. -/
theorem Passes.intercalate {pieces : List (List Char)} (each : ∀ p ∈ pieces, Passes 1 p) :
    Passes 1 ([','].intercalate pieces) := by
  induction pieces with
  | nil => exact Passes.nil 1
  | cons p rest ih =>
      have first := each p List.mem_cons_self
      have others := ih fun q mem => each q (List.mem_cons_of_mem p mem)
      cases rest with
      | nil => simpa using first
      | cons q rest =>
          rw [List.intercalate_cons_cons]
          have comma : Passes 1 [','] :=
            Passes.singleton (by decide) (by decide) fun _ => Nat.one_pos
          exact (first.append comma).append others

/-- A list whose pieces pass is cut exactly at the commas between them. -/
theorem cuts_intercalate {pieces : List (List Char)} (nonempty : pieces ≠ [])
    (each : ∀ p ∈ pieces, Passes 0 p) : Cuts 0 ([','].intercalate pieces ++ [']']) pieces := by
  induction pieces with
  | nil => contradiction
  | cons p rest ih =>
      have first := each p List.mem_cons_self
      cases rest with
      | nil => simpa [onto_cons] using first (Nat.zero_le 0) .close
      | cons q rest =>
          have others := ih (List.cons_ne_nil q rest)
            fun r mem => each r (List.mem_cons_of_mem p mem)
          have behind := first (Nat.zero_le 0) (.comma others)
          simpa [onto_cons, List.intercalate_cons_cons] using behind

/-! ## What was cut -/

theorem ontoFirst_ne_nil (c : Char) (pieces : List (List Char)) : ontoFirst c pieces ≠ [] := by
  cases pieces <;> simp [ontoFirst]

theorem Cuts.ne_nil {depth : Nat} {cs : List Char} {pieces : List (List Char)}
    (cuts : Cuts depth cs pieces) : pieces ≠ [] := by
  cases cuts with
  | close => exact List.cons_ne_nil _ _
  | comma _ => exact List.cons_ne_nil _ _
  | opening _ => exact ontoFirst_ne_nil _ _
  | closing _ => exact ontoFirst_ne_nil _ _
  | other _ _ _ _ => exact ontoFirst_ne_nil _ _

theorem intercalate_ontoFirst {c : Char} {pieces : List (List Char)} (nonempty : pieces ≠ []) :
    [','].intercalate (ontoFirst c pieces) = c :: [','].intercalate pieces := by
  rcases pieces with _ | ⟨p, _ | ⟨q, rest⟩⟩
  · contradiction
  · simp [ontoFirst]
  · simp [ontoFirst, List.intercalate_cons_cons]

/-- Nothing is lost: the pieces with the commas between them are the text up to
its last bracket. -/
theorem Cuts.eq_intercalate {depth : Nat} {cs : List Char} {pieces : List (List Char)}
    (cuts : Cuts depth cs pieces) : cs = [','].intercalate pieces ++ [']'] := by
  induction cuts with
  | close => rfl
  | @comma rest pieces inner ih =>
      obtain ⟨p, others, rfl⟩ := List.exists_cons_of_ne_nil inner.ne_nil
      rw [List.intercalate_cons_cons, ih]
      rfl
  | opening inner ih => rw [intercalate_ontoFirst inner.ne_nil, ih, List.cons_append]
  | closing inner ih => rw [intercalate_ontoFirst inner.ne_nil, ih, List.cons_append]
  | other _ _ _ inner ih => rw [intercalate_ontoFirst inner.ne_nil, ih, List.cons_append]

/-- No comma stands before the first opening bracket. -/
def NoLeadingComma (cs : List Char) : Prop :=
  ',' ∉ cs.takeWhile (· != '[')

/-- A comma before the brackets of a piece would have ended the piece. Only the
rest of a piece whose brackets are already open may begin with one. -/
theorem Cuts.noLeadingComma {depth : Nat} {cs : List Char} {pieces : List (List Char)}
    (cuts : Cuts depth cs pieces) :
    (∀ p ∈ pieces.tail, NoLeadingComma p) ∧ (depth = 0 → ∀ p ∈ pieces, NoLeadingComma p) := by
  have extend (c : Char) {pieces : List (List Char)} {p : List Char}
      (mem : p ∈ (ontoFirst c pieces).tail) : p ∈ pieces.tail := by
    cases pieces with
    | nil => simp [ontoFirst] at mem
    | cons q others => exact mem
  induction cuts with
  | close => simp [NoLeadingComma]
  | comma inner ih =>
      refine ⟨ih.2 rfl, fun _ p mem => ?_⟩
      rcases List.mem_cons.mp mem with rfl | mem
      · simp [NoLeadingComma]
      · exact ih.2 rfl p mem
  | @opening depth rest pieces inner ih =>
      refine ⟨fun p mem => ih.1 p (extend _ mem), fun _ p mem => ?_⟩
      obtain ⟨q, others, rfl⟩ := List.exists_cons_of_ne_nil inner.ne_nil
      rcases List.mem_cons.mp mem with rfl | mem
      · simp [NoLeadingComma]
      · exact ih.1 p mem
  | closing inner ih =>
      exact ⟨fun p mem => ih.1 p (extend _ mem), fun outside => absurd outside (Nat.succ_ne_zero _)⟩
  | @other depth c rest pieces _ _ inside inner ih =>
      refine ⟨fun p mem => ih.1 p (extend _ mem), fun outside p mem => ?_⟩
      obtain ⟨q, others, rfl⟩ := List.exists_cons_of_ne_nil inner.ne_nil
      rcases List.mem_cons.mp mem with rfl | mem
      · have notComma : c ≠ ',' := fun isComma => Nat.ne_of_gt (inside isComma) outside
        have free := ih.2 outside q List.mem_cons_self
        by_cases isOpening : c = '['
        · simp [NoLeadingComma, isOpening]
        · simpa [NoLeadingComma, isOpening, Ne.symm notComma] using free
      · exact ih.1 p mem

end ApiCompiler.Datatype
