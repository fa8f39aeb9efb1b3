import ApiCompiler.Proofs.Text
import ApiCompiler.Route
import Mathlib.Data.List.Infix
import Mathlib.Data.List.Pairwise
import Mathlib.Data.List.TakeWhile

/-!
# Routes keep their text

A placeholder is a pair of braces around a name, or around a name and a hint. Where placeholders
occur in a text is said without a machine that looks for them: at every place where one is written.
A brace never opens inside a placeholder, so no two of them overlap, and reading a text from the
left misses none. The pieces of a path are cut from its text without loss, so rendering a route
gives the text it was read from, and reading that again gives the route.
-/

namespace ApiCompiler

namespace Route

/-- A name as placeholders have them: an ASCII letter, then letters, digits and underscores. -/
def IsName (cs : List Char) : Prop :=
  ∃ first rest, cs = first :: rest ∧ first.isAlpha = true ∧
    ∀ c ∈ rest, c.isAlphanum = true ∨ c = '_'

end Route

/-- A placeholder that can be written: its name is one, and so is its hint if there is any. -/
structure PathParam.IsProper (p : PathParam) : Prop where
  name : Route.IsName p.name.toList
  hint : p.hint ≠ "" → Route.IsName p.hint.toList

namespace Route

/-- A placeholder is written in a text behind some number of characters. -/
def OccursAt (text : List Char) (offset : Nat) (p : PathParam) : Prop :=
  p.IsProper ∧ p.render.toList <+: text.drop offset

/-- The placeholders of a text from left to right, each with the number of characters that stand
before it. -/
structure Lists (text : List Char) (found : List (Nat × PathParam)) : Prop where
  ordered : found.Pairwise fun a b => a.1 < b.1
  mem_iff (offset : Nat) (p : PathParam) : (offset, p) ∈ found ↔ OccursAt text offset p

/-- No name is written in two placeholders of a text. -/
def DistinctNames (text : List Char) : Prop :=
  ∀ i p j q, OccursAt text i p → OccursAt text j q → p.name = q.name → i = j

/-! ## Reading names -/

theorem isNameChar_of_alpha {c : Char} (letter : c.isAlpha = true) : isNameChar c = true := by
  simp [isNameChar, Char.isAlphanum, letter]

theorem isNameChar_iff {c : Char} : isNameChar c = true ↔ c.isAlphanum = true ∨ c = '_' := by
  rw [isNameChar, Bool.or_eq_true, beq_iff_eq]

theorem IsName.isNameChar {cs : List Char} (name : IsName cs) :
    ∀ c ∈ cs, Route.isNameChar c = true := by
  obtain ⟨first, rest, rfl, letter, more⟩ := name
  rw [List.forall_mem_cons]
  exact ⟨isNameChar_of_alpha letter, fun c mem => isNameChar_iff.mpr (more c mem)⟩

theorem IsName.ne_nil {cs : List Char} (name : IsName cs) : cs ≠ [] := by
  obtain ⟨first, rest, rfl, -, -⟩ := name
  exact List.cons_ne_nil _ _

/-- A name is read as far as its characters go. -/
theorem readName_eq_some_iff {cs name rest : List Char} :
    readName cs = some (name, rest) ↔
      cs = name ++ rest ∧ IsName name ∧ ∀ c, rest.head? = some c → isNameChar c = false := by
  constructor
  · intro read
    cases cs with
    | nil => exact nomatch read
    | cons first more =>
        rw [readName] at read
        split at read
        · rename_i letter
          cases read
          refine ⟨?_, ⟨first, _, rfl, letter, fun c mem => ?_⟩, fun c next => ?_⟩
          · rw [List.cons_append, List.takeWhile_append_dropWhile]
          · exact isNameChar_iff.mp (List.mem_takeWhile_imp mem)
          · have stops := List.head?_dropWhile_not isNameChar more
            rw [next] at stops
            exact stops
        · exact nomatch read
  · rintro ⟨rfl, name, stops⟩
    obtain ⟨first, more, rfl, letter, inside⟩ := name
    have members : ∀ c ∈ more, isNameChar c = true := fun c mem => isNameChar_iff.mpr (inside c mem)
    have front : rest.takeWhile isNameChar = [] ∧ rest.dropWhile isNameChar = rest := by
      cases rest with
      | nil => exact ⟨rfl, rfl⟩
      | cons c rest => simp [stops c rfl]
    rw [List.cons_append, readName, isNameStart, if_pos letter,
      List.takeWhile_append_of_pos members, List.dropWhile_append_of_pos members, front.1, front.2,
      List.append_nil]

theorem readName_append {name : List Char} (isName : IsName name) {c : Char}
    (stops : isNameChar c = false) (rest : List Char) :
    readName (name ++ c :: rest) = some (name, c :: rest) :=
  readName_eq_some_iff.mpr ⟨rfl, isName, fun _ next => Option.some.inj next ▸ stops⟩

/-! ## Reading placeholders -/

theorem toList_render_plain {p : PathParam} (plain : p.hint = "") :
    p.render.toList = '\x7b' :: (p.name.toList ++ ['\x7d']) := by
  simp [PathParam.render, plain]

theorem toList_render_hinted {p : PathParam} (hinted : p.hint ≠ "") :
    p.render.toList =
      '\x7b' :: (p.name.toList ++ ':' :: (p.hint.toList ++ ['\x7d'])) := by
  simp [PathParam.render, hinted]

/-- A placeholder is read at the beginning of a text exactly if it is written there. -/
theorem placeholder?_eq_some_iff {text : List Char} {p : PathParam} :
    placeholder? text = some p ↔ p.IsProper ∧ p.render.toList <+: text := by
  constructor
  · intro found
    unfold placeholder? at found
    split at found
    · split at found
      · rename_i name rest read
        obtain ⟨rfl, isName, -⟩ := readName_eq_some_iff.mp read
        cases found
        refine ⟨⟨by simpa using isName, fun hinted => absurd rfl hinted⟩, rest, ?_⟩
        simp [toList_render_plain]
      · split at found
        · rename_i name _ read _ hint rest readHint
          obtain ⟨rfl, isHint, -⟩ := readName_eq_some_iff.mp readHint
          obtain ⟨rfl, isName, -⟩ := readName_eq_some_iff.mp read
          cases found
          have hinted : String.ofList hint ≠ "" := by simpa using isHint.ne_nil
          refine ⟨⟨by simpa using isName, fun _ => by simpa using isHint⟩, rest, ?_⟩
          simp [toList_render_hinted (p := ⟨String.ofList name, String.ofList hint⟩) hinted]
        · exact nomatch found
      · exact nomatch found
    · exact nomatch found
  · rintro ⟨proper, rest, rfl⟩
    have close : isNameChar '\x7d' = false := by decide
    have colon : isNameChar ':' = false := by decide
    by_cases plain : p.hint = ""
    · rw [toList_render_plain plain, List.cons_append, List.append_assoc, List.singleton_append,
        placeholder?, readName_append proper.name close]
      simp [← plain]
    · rw [toList_render_hinted plain]
      simp only [List.cons_append, List.append_assoc, List.nil_append]
      rw [placeholder?, readName_append proper.name colon]
      simp [readName_append (proper.hint plain) close]

theorem occursAt_zero_iff {text : List Char} {p : PathParam} :
    OccursAt text 0 p ↔ placeholder? text = some p :=
  placeholder?_eq_some_iff.symm

/-! ## Occurrences -/

theorem occursAt_append_iff {front rest : List Char} {offset : Nat} {p : PathParam} :
    OccursAt (front ++ rest) (front.length + offset) p ↔ OccursAt rest offset p := by
  rw [OccursAt, OccursAt, List.drop_append, List.drop_of_length_le (Nat.le_add_right _ _),
    Nat.add_sub_cancel_left, List.nil_append]

theorem OccursAt.mono {text more : List Char} {offset : Nat} {p : PathParam}
    (occurs : OccursAt text offset p) (front : text <+: more) : OccursAt more offset p :=
  ⟨occurs.1, occurs.2.trans (List.IsPrefix.drop front offset)⟩

/-- At most one placeholder is written at a place. -/
theorem OccursAt.unique {text : List Char} {offset : Nat} {p q : PathParam}
    (first : OccursAt text offset p) (second : OccursAt text offset q) : p = q :=
  Option.some.inj <| (placeholder?_eq_some_iff.mpr first).symm.trans
    (placeholder?_eq_some_iff.mpr second)

/-- A placeholder begins with a brace, and no other brace opens in it. -/
theorem exists_inner {p : PathParam} (proper : p.IsProper) :
    ∃ inner, p.render.toList = '\x7b' :: inner ∧ '\x7b' ∉ inner := by
  have brace : isNameChar '\x7b' ≠ true := by decide
  have name : '\x7b' ∉ p.name.toList := fun mem => brace (proper.name.isNameChar _ mem)
  by_cases plain : p.hint = ""
  · exact ⟨_, toList_render_plain plain, by simp [name]⟩
  · have hint : '\x7b' ∉ p.hint.toList := fun mem =>
      brace ((proper.hint plain).isNameChar _ mem)
    exact ⟨_, toList_render_hinted plain, by simp [name, hint]⟩

/-- No placeholder begins inside another one. -/
theorem not_occursAt_inside {p q : PathParam} (proper : p.IsProper) {rest : List Char}
    {offset : Nat} (later : 0 < offset) (inside : offset < p.render.toList.length) :
    ¬OccursAt (p.render.toList ++ rest) offset q := by
  rintro ⟨other, written⟩
  obtain ⟨inner, shape, closed⟩ := exists_inner proper
  obtain ⟨_, otherShape, -⟩ := exists_inner other
  obtain ⟨k, rfl⟩ := Nat.exists_eq_add_of_lt later
  rw [shape, List.length_cons] at inside
  rw [shape, otherShape, List.cons_append, Nat.zero_add, List.drop_succ_cons] at written
  have short : k < inner.length := by omega
  rw [List.drop_append_of_le_length short.le, List.drop_eq_getElem_cons short, List.cons_append,
    List.cons_prefix_cons] at written
  exact closed (written.1 ▸ List.getElem_mem short)

/-- The placeholders of a text are the one that it begins with, if there is one, and those of the
rest, provided that none begins in between. -/
theorem Lists.append {rest : List Char} {found : List (Nat × PathParam)}
    (behind : Lists rest found) {front : List Char} (nonempty : front ≠ [])
    (first : Option PathParam) (start : ∀ p, OccursAt (front ++ rest) 0 p ↔ first = some p)
    (between : ∀ offset p, 0 < offset → offset < front.length →
      ¬OccursAt (front ++ rest) offset p) :
    Lists (front ++ rest)
      (first.toList.map (0, ·) ++ found.map fun o => (front.length + o.1, o.2)) := by
  have positive : 0 < front.length := List.length_pos_iff.mpr nonempty
  constructor
  · rw [List.pairwise_append]
    refine ⟨?_, List.pairwise_map.mpr (behind.ordered.imp fun less => by omega), ?_⟩
    · cases first with
      | none => exact .nil
      | some p => exact List.pairwise_singleton _ _
    · simp only [List.mem_map]
      rintro _ ⟨p, -, rfl⟩ _ ⟨o, -, rfl⟩
      exact Nat.lt_of_lt_of_le positive (Nat.le_add_right _ _)
  · intro offset p
    simp only [List.mem_append, List.mem_map, Option.mem_toList, Prod.mk.injEq, Prod.exists]
    constructor
    · rintro (⟨q, here, rfl, rfl⟩ | ⟨k, q, mem, rfl, rfl⟩)
      · exact (start q).mpr here
      · exact occursAt_append_iff.mpr ((behind.mem_iff k q).mp mem)
    · intro occurs
      rcases Nat.eq_zero_or_pos offset with rfl | later
      · exact .inl ⟨p, (start p).mp occurs, rfl, rfl⟩
      · have reached : front.length ≤ offset := by
          by_contra inside
          exact between offset p later (Nat.lt_of_not_le inside) occurs
        obtain ⟨k, rfl⟩ := Nat.exists_eq_add_of_le reached
        exact .inr ⟨k, p, (behind.mem_iff k p).mpr (occursAt_append_iff.mp occurs), rfl, rfl⟩

end Route

open Text

namespace Route

/-! ## Pieces -/

/-- A text is divided into pieces from the left: where a placeholder is written it is a piece, and
every other character belongs to a literal run. -/
inductive Divided : List Char → List PathPart → Prop
  | nil : Divided [] []
  | param {p : PathParam} {rest : List Char} {parts : List PathPart} (proper : p.IsProper)
      (behind : Divided rest parts) : Divided (p.render.toList ++ rest) (.param p :: parts)
  | literal {c : Char} {rest : List Char} {parts : List PathPart}
      (free : placeholder? (c :: rest) = none) (behind : Divided rest parts) :
      Divided (c :: rest) (ontoLiteral c parts)

/-- What lies behind the skipped characters is divided. -/
theorem divided_partsFrom (skip : Nat) (text : List Char) :
    Divided (text.drop skip) (partsFrom skip text) := by
  induction text generalizing skip with
  | nil =>
      rw [List.drop_nil]
      exact .nil
  | cons c rest ih =>
      cases skip with
      | succ skip => exact ih skip
      | zero =>
          rw [partsFrom, List.drop_zero]
          split
          · rename_i p found
            obtain ⟨proper, after, written⟩ := placeholder?_eq_some_iff.mp found
            obtain ⟨inner, shape, -⟩ := exists_inner proper
            rw [shape, List.cons_append, List.cons.injEq] at written
            obtain ⟨rfl, rfl⟩ := written
            have behind : (inner ++ after).drop (p.render.length - 1) = after := by
              rw [← String.length_toList, shape, List.length_cons, Nat.add_sub_cancel,
                List.drop_left]
            have divided := ih (p.render.length - 1)
            rw [behind] at divided
            rw [← List.cons_append, ← shape]
            exact .param proper divided
          · rename_i free
            exact .literal free (ih 0)

theorem divided_partsOf (path : String) : Divided path.toList (partsOf path) :=
  divided_partsFrom 0 path.toList

/-- The text of some pieces. -/
def textOf (parts : List PathPart) : List Char :=
  (String.join (parts.map PathPart.render)).toList

theorem textOf_cons (part : PathPart) (parts : List PathPart) :
    textOf (part :: parts) = part.render.toList ++ textOf parts := by
  simp [textOf]

theorem textOf_ontoLiteral (c : Char) (parts : List PathPart) :
    textOf (ontoLiteral c parts) = c :: textOf parts := by
  unfold ontoLiteral
  split
  · simp [textOf_cons, PathPart.render]
  · simp [textOf_cons, PathPart.render]

/-- The pieces of a text hold all of it. -/
theorem Divided.textOf_eq {text : List Char} {parts : List PathPart}
    (divided : Divided text parts) : textOf parts = text := by
  induction divided with
  | nil => rfl
  | param proper behind ih => rw [textOf_cons, ih, PathPart.render]
  | literal free behind ih => rw [textOf_ontoLiteral, ih]

theorem path_partsOf (path : String) (method : String) :
    (Route.mk method (partsOf path)).path = path :=
  String.toList_inj.mp (divided_partsOf path).textOf_eq

/-! ## Routes -/

/-- Names that were not seen before and do not repeat, when the first one is seen. -/
theorem nodup_cons_unseen_iff {name : String} {seen names : List String} (absent : name ∉ seen) :
    ((name :: names).Nodup ∧ ∀ n ∈ name :: names, n ∉ seen) ↔
      names.Nodup ∧ ∀ n ∈ names, n ∉ name :: seen := by
  rw [List.nodup_cons, List.forall_mem_cons]
  constructor
  · rintro ⟨⟨once, distinct⟩, -, fresh⟩
    refine ⟨distinct, fun n mem again => ?_⟩
    rcases List.mem_cons.mp again with rfl | again
    · exact once mem
    · exact fresh n mem again
  · rintro ⟨distinct, fresh⟩
    refine ⟨⟨fun mem => fresh name mem List.mem_cons_self, distinct⟩, absent, ?_⟩
    exact fun n mem again => fresh n mem (List.mem_cons_of_mem name again)

theorem firstRepeated_eq_none_iff {seen names : List String} :
    firstRepeated seen names = none ↔ names.Nodup ∧ ∀ n ∈ names, n ∉ seen := by
  induction names generalizing seen with
  | nil => simp [firstRepeated]
  | cons name names ih =>
      rw [firstRepeated]
      by_cases present : name ∈ seen
      · simp [present]
      · rw [if_neg (present ∘ List.contains_iff_mem.mp), ih, nodup_cons_unseen_iff present]

/-- The name that is reported stands behind an equal one or was seen before, and no name before
it does. -/
theorem firstRepeated_eq_some_iff {seen names : List String} {name : String} :
    firstRepeated seen names = some name ↔
      ∃ before after, names = before ++ name :: after ∧ before.Nodup ∧
        (∀ n ∈ before, n ∉ seen) ∧ (name ∈ before ∨ name ∈ seen) := by
  induction names generalizing seen with
  | nil => simp [firstRepeated]
  | cons first rest ih =>
      rw [firstRepeated]
      by_cases present : first ∈ seen
      · rw [if_pos (List.contains_iff_mem.mpr present)]
        constructor
        · rintro ⟨⟩
          exact ⟨[], rest, rfl, List.nodup_nil, fun _ => nofun, .inr present⟩
        · rintro ⟨before, after, split, -, fresh, -⟩
          cases before with
          | nil =>
              cases split
              rfl
          | cons n before =>
              cases split
              exact absurd present (fresh first List.mem_cons_self)
      · rw [if_neg (present ∘ List.contains_iff_mem.mp), ih]
        have moved (before : List String) : name ∈ before ∨ name ∈ first :: seen ↔
            name ∈ first :: before ∨ name ∈ seen := by
          rw [List.mem_cons, List.mem_cons, or_left_comm, or_assoc]
        constructor
        · rintro ⟨before, after, rfl, distinct, fresh, again⟩
          obtain ⟨distinct, fresh⟩ := (nodup_cons_unseen_iff present).mpr ⟨distinct, fresh⟩
          exact ⟨first :: before, after, rfl, distinct, fresh, (moved before).mp again⟩
        · rintro ⟨before, after, split, distinct, fresh, again⟩
          cases before with
          | nil =>
              cases split
              exact absurd (again.resolve_left List.not_mem_nil) present
          | cons n before =>
              obtain ⟨rfl, rfl⟩ := List.cons.inj split
              obtain ⟨distinct, fresh⟩ := (nodup_cons_unseen_iff present).mp ⟨distinct, fresh⟩
              exact ⟨before, after, rfl, distinct, fresh, (moved before).mpr again⟩

theorem cut_eq_some_iff {s method path : String} :
    cut ' ' s = some (method, path) ↔ s = method ++ " " ++ path ∧ ' ' ∉ method.toList := by
  rw [Text.cut_eq_some_iff, ← String.toList_inj]
  simp

theorem not_mem_of_mem_methods {method : String} (known : method ∈ methods) :
    ' ' ∉ method.toList := by
  revert method
  decide

/-- A route that comes from a text is its method and the pieces of its path. -/
theorem render_partsOf {s method path : String} (pieces : cut ' ' s = some (method, path)) :
    (Route.mk method (partsOf path)).render = s := by
  rw [render, path_partsOf, (cut_eq_some_iff.mp pieces).1]

/-- What is read is the method and the pieces of the path, if no name stands in two of them. The
last check of a reading never fails. -/
theorem parse_eq_ok_iff {s : String} {r : Route} :
    parse s = .ok r ↔
      ∃ path, s = r.method ++ " " ++ path ∧ r.method ∈ methods ∧ path.toList.head? = some '/' ∧
        r.parts = partsOf path ∧ (r.params.map (·.name)).Nodup := by
  constructor
  · intro read
    unfold parse at read
    split at read
    · split at read
      · exact nomatch read
      · exact nomatch read
    · rename_i method path pieces
      split at read
      · exact nomatch read
      · rename_i known
        split at read
        · exact nomatch read
        · rename_i slash
          dsimp only at read
          split at read
          · exact nomatch read
          · rename_i distinct
            rw [if_pos (render_partsOf pieces)] at read
            cases read
            exact ⟨path, (cut_eq_some_iff.mp pieces).1, by simpa using known,
              Decidable.not_not.mp slash, rfl, (firstRepeated_eq_none_iff.mp distinct).1⟩
  · rintro ⟨path, written, known, slash, parts, distinct⟩
    obtain ⟨method, _⟩ := r
    dsimp only at written known parts
    subst parts
    have pieces := cut_eq_some_iff.mpr ⟨written, not_mem_of_mem_methods known⟩
    have fresh := firstRepeated_eq_none_iff.mpr ⟨distinct, fun _ _ => List.not_mem_nil⟩
    have refused : ¬(!methods.contains method) = true := by simpa using known
    rw [parse, pieces]
    dsimp only
    rw [if_neg refused, if_neg (not_not.mpr slash), fresh]
    dsimp only
    rw [if_pos (render_partsOf pieces)]

/-- A text that is not read has a flaw as a route. It is never refused for being written in another
way. -/
theorem exists_flaw_of_parse {s : String} {e : Error} (failed : parse s = .error e) :
    ∃ flaw, e = .route flaw := by
  unfold parse at failed
  split at failed
  · split at failed
    · cases failed
      exact ⟨_, rfl⟩
    · cases failed
      exact ⟨_, rfl⟩
  · rename_i method path pieces
    split at failed
    · cases failed
      exact ⟨_, rfl⟩
    · split at failed
      · cases failed
        exact ⟨_, rfl⟩
      · dsimp only at failed
        split at failed
        · cases failed
          exact ⟨_, rfl⟩
        · rw [if_pos (render_partsOf pieces)] at failed
          exact nomatch failed

/-- A route is written as the text it was read from. -/
theorem render_of_parse {s : String} {r : Route} (read : parse s = .ok r) : r.render = s := by
  obtain ⟨path, written, -, -, parts, -⟩ := parse_eq_ok_iff.mp read
  obtain ⟨method, _⟩ := r
  dsimp only at parts
  rw [render, parts, path_partsOf, written]

/-- A route that was read from a text is read again from its own. -/
theorem parse_render_of_parse {s : String} {r : Route} (read : parse s = .ok r) :
    parse r.render = .ok r := by
  rw [render_of_parse read, read]

end Route

end ApiCompiler
