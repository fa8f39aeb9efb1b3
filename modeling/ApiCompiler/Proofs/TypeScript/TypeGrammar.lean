import ApiCompiler.Proofs.Text.Words

/-!
# The grammar of types in TypeScript

The part of the type expressions that is emitted. Brackets of arrays bind tighter than the bars of
unions, so a union is the element of an array only in parentheses. Every text has at most one tree.
-/

namespace ApiCompiler.TypeScript

open Text

/-! ## The grammar -/

/-- A type expression as it is read, with its parentheses. -/
inductive TypeTree where
  | name (s : String)
  | generic (s : String) (args : List TypeTree)
  | group (inner : TypeTree)
  | array (element : TypeTree)
  | union (left right : TypeTree)

/-- The characters that end an identifier. -/
def marks : List Char := [' ', '|', '<', '>', ',', '(', ')', '[', ']']

/-- The identifiers that stand for builtin types. -/
def builtinNames : List String :=
  ["any", "string", "Integer", "Double", "boolean", "Date", "Decimal", "Set", "Map", "undefined"]

/-- Which names are identifiers. Those of the builtin types are, and no identifier is empty or has
a mark of the grammar in it. -/
structure Lexicon where
  IsIdentifier : String → Prop
  builtin : ∀ name ∈ builtinNames, IsIdentifier name
  ne_nil : ∀ name, IsIdentifier name → name.toList ≠ []
  plain : ∀ name, IsIdentifier name → ∀ c ∈ name.toList, c ∉ marks

/-- The levels of the grammar, from the tightest. -/
inductive Level where
  | primary
  | suffixed
  | union

/-- Brackets of arrays, one pair behind the other. -/
def brackets : Nat → List Char
  | 0 => []
  | n + 1 => '[' :: ']' :: brackets n

/-- Arrays of arrays. -/
def TypeTree.arrays : Nat → TypeTree → TypeTree
  | 0, t => t
  | n + 1, t => .array (arrays n t)

/-- The grammar: a name, a name with arguments or an expression in parentheses, followed by
brackets, and such expressions with bars between them. Alternatives are grouped to the left. -/
inductive Reads (lexicon : Lexicon) : Level → List Char → TypeTree → Prop
  | name {s} (identifier : lexicon.IsIdentifier s) : Reads lexicon .primary s.toList (.name s)
  | generic {s} {args : List (List Char × TypeTree)} (identifier : lexicon.IsIdentifier s)
      (nonempty : args ≠ []) (each : ∀ a ∈ args, Reads lexicon .union a.1 a.2) :
      Reads lexicon .primary
        (s.toList ++ '<' :: ([',', ' '].intercalate (args.map (·.1)) ++ ['>']))
        (.generic s (args.map (·.2)))
  | group {cs t} (inner : Reads lexicon .union cs t) :
      Reads lexicon .primary ('(' :: (cs ++ [')'])) (.group t)
  | arrays {cs t} (element : Reads lexicon .primary cs t) (n : Nat) :
      Reads lexicon .suffixed (cs ++ brackets n) (.arrays n t)
  | union {first : List Char × TypeTree} {rest : List (List Char × TypeTree)}
      (each : ∀ m ∈ first :: rest, Reads lexicon .suffixed m.1 m.2) :
      Reads lexicon .union ([' ', '|', ' '].intercalate ((first :: rest).map (·.1)))
        ((rest.map (·.2)).foldl .union first.2)

/-! ## An expression is determined by the text that it stands in -/

/-- The characters that may follow an expression of a level. -/
def follow : Level → List Char
  | .primary => ['[', ' ', ',', '>', ')']
  | .suffixed => [' ', ',', '>', ')']
  | .union => [',', '>', ')']

/-- A continuation that ends an expression of a level. -/
def Ends (level : Level) (rest : List Char) : Prop := ∀ c ∈ rest.head?, c ∈ follow level

section Determined

variable {lexicon : Lexicon} {level : Level} {cs ds r q : List Char} {t u : TypeTree}
  {name other : String}

theorem ends_cons {c : Char} (mem : c ∈ follow level) (rest : List Char) :
    Ends level (c :: rest) := by
  rintro _ ⟨⟩
  exact mem

/-- An identifier reaches up to the first mark. -/
theorem identifier_determined (first : lexicon.IsIdentifier name)
    (second : lexicon.IsIdentifier other) (ends : ∀ c ∈ r.head?, c ∈ marks)
    (stops : ∀ c ∈ q.head?, c ∈ marks) (same : name.toList ++ r = other.toList ++ q) :
    name = other ∧ r = q := by
  obtain ⟨eq, rest⟩ := append_inj_of_ends (lexicon.plain _ first) (lexicon.plain _ second)
    (fun c mem => not_not_intro (ends c mem)) (fun c mem => not_not_intro (stops c mem)) same
  exact ⟨String.toList_inj.mp eq, rest⟩

theorem identifier_ne_mark {c : Char} (identifier : lexicon.IsIdentifier name) (mark : c ∈ marks) :
    name.toList ++ r ≠ c :: q := by
  obtain ⟨d, rest, eq⟩ := List.exists_cons_of_ne_nil (lexicon.ne_nil _ identifier)
  rw [eq]
  rintro ⟨⟩
  exact lexicon.plain _ identifier c (by rw [eq]; exact List.mem_cons_self) mark

theorem Ends.mark (ends : Ends level r) : ∀ c ∈ r.head?, c ∈ marks := by
  have subset : ∀ c ∈ follow level, c ∈ marks := by cases level <;> simp [follow, marks]
  exact fun c mem => subset c (ends c mem)

/-- A name with arguments is not the name in front of something else. -/
theorem identifier_ne_generic (first : lexicon.IsIdentifier name)
    (second : lexicon.IsIdentifier other) (ends : Ends .primary r) :
    name.toList ++ r ≠ other.toList ++ '<' :: q := by
  intro same
  have opening : ∀ c ∈ ('<' :: q).head?, c ∈ marks := by
    rintro _ ⟨⟩
    decide
  obtain ⟨_, rfl⟩ := identifier_determined first second ends.mark opening same
  exact absurd (ends _ rfl) (by decide)

theorem brackets_determined {m n : Nat} (ends : Ends .suffixed r) (stops : Ends .suffixed q)
    (same : brackets m ++ r = brackets n ++ q) : m = n := by
  induction m generalizing n with
  | zero =>
      cases n with
      | zero => rfl
      | succ n =>
          rw [brackets, List.nil_append] at same
          subst same
          exact absurd (ends _ rfl) (by decide)
  | succ m ih =>
      cases n with
      | zero =>
          rw [brackets, brackets, List.nil_append] at same
          subst same
          exact absurd (stops _ rfl) (by decide)
      | succ n => rw [ih (List.cons.inj (List.cons.inj same).2).2]

theorem Ends.brackets (ends : Ends .suffixed r) (n : Nat) : Ends .primary (brackets n ++ r) := by
  cases n with
  | zero => exact fun c mem => List.mem_cons_of_mem _ (ends c mem)
  | succ n => exact ends_cons (by decide) _

/-- An expression is determined by a text in which what follows ends its level. -/
theorem Reads.determined (first : Reads lexicon level cs t) (second : Reads lexicon level ds u)
    (ends : Ends level r) (stops : Ends level q) (same : cs ++ r = ds ++ q) :
    cs = ds ∧ t = u := by
  -- by induction on one derivation; the first characters decide which rule the other one ends with
  induction first generalizing ds u r q with
  | name identifier =>
      cases second with
      | name other =>
          obtain ⟨rfl, _⟩ := identifier_determined identifier other ends.mark stops.mark same
          exact ⟨rfl, rfl⟩
      | generic other _ _ =>
          rw [List.append_assoc] at same
          exact absurd same (identifier_ne_generic identifier other ends)
      | group inner => exact absurd same (identifier_ne_mark identifier (by decide))
  | @generic s args identifier nonempty each ih =>
      cases second with
      | name other =>
          rw [List.append_assoc] at same
          exact absurd same.symm (identifier_ne_generic other identifier stops)
      | @generic s' others other otherNonempty otherEach =>
          simp only [List.cons_append, List.append_assoc, List.nil_append] at same
          have opening (rest : List Char) : ∀ c ∈ ('<' :: rest).head?, c ∈ marks := by
            rintro _ ⟨⟩
            decide
          obtain ⟨rfl, inner⟩ := identifier_determined identifier other (opening _) (opening _) same
          have last (rest : List Char) : ¬ [',', ' '] <+: '>' :: rest := by
            rintro ⟨_, eq⟩
            exact absurd (List.cons.inj eq).1 (by decide)
          obtain ⟨rfl, _⟩ := intercalate_inj nonempty otherNonempty
            (fun a mem b memOther r q ends stops same =>
              Prod.ext_iff.mpr (ih a mem (otherEach b memOther) ends stops same))
            (fun _ => ends_cons (by decide) _) (ends_cons (by decide) _) (ends_cons (by decide) _)
            (last _) (last _) (List.cons.inj inner).2
          exact ⟨rfl, rfl⟩
      | group inner =>
          rw [List.append_assoc] at same
          exact absurd same (identifier_ne_mark identifier (by decide))
  | group inner ih =>
      cases second with
      | name other => exact absurd same.symm (identifier_ne_mark other (by decide))
      | generic other _ _ =>
          rw [List.append_assoc] at same
          exact absurd same.symm (identifier_ne_mark other (by decide))
      | group other =>
          simp only [List.cons_append, List.append_assoc, List.nil_append] at same
          obtain ⟨rfl, rfl⟩ := ih other (ends_cons (by decide) _) (ends_cons (by decide) _)
            (List.cons.inj same).2
          exact ⟨rfl, rfl⟩
  | arrays element n ih =>
      cases second with
      | arrays other m =>
          rw [List.append_assoc, List.append_assoc] at same
          obtain ⟨rfl, rfl⟩ := ih other (ends.brackets n) (stops.brackets m) same
          rw [brackets_determined ends stops (List.append_cancel_left same)]
          exact ⟨rfl, rfl⟩
  | @union head rest each ih =>
      cases second with
      | @union otherHead otherRest otherEach =>
          have last {rest : List Char} (ends : Ends .union rest) : ¬ [' ', '|', ' '] <+: rest := by
            rintro ⟨_, rfl⟩
            exact absurd (ends _ rfl) (by decide)
          have looser {rest : List Char} (ends : Ends .union rest) : Ends .suffixed rest :=
            fun c mem => List.mem_cons_of_mem _ (ends c mem)
          obtain ⟨eq, _⟩ := intercalate_inj (List.cons_ne_nil _ _) (List.cons_ne_nil _ _)
            (fun a mem b memOther r q ends stops same =>
              Prod.ext_iff.mpr (ih a mem (otherEach b memOther) ends stops same))
            (fun _ => ends_cons (by decide) _) (looser ends) (looser stops) (last ends)
            (last stops) same
          obtain ⟨rfl, rfl⟩ := List.cons.inj eq
          exact ⟨rfl, rfl⟩

theorem Reads.unique (first : Reads lexicon .union cs t)
    (second : Reads lexicon .union cs u) : t = u := by
  have none : Ends .union [] := nofun
  exact (first.determined second none none rfl).2

end Determined

/-! ## What a tree says -/

namespace TypeTree

mutual

/-- The tree without its parentheses. -/
def bare : TypeTree → TypeTree
  | name s => name s
  | generic s args => generic s (bareAll args)
  | group inner => inner.bare
  | array element => .array element.bare
  | union left right => .union left.bare right.bare

/-- Several trees without their parentheses. -/
def bareAll : List TypeTree → List TypeTree
  | [] => []
  | t :: rest => t.bare :: bareAll rest

end

/-- The element of an array is never a union without parentheses around it. -/
inductive Guarded : TypeTree → Prop
  | name (s : String) : Guarded (name s)
  | generic (s : String) {args : List TypeTree} (each : ∀ a ∈ args, Guarded a) :
      Guarded (generic s args)
  | group {t : TypeTree} (inner : Guarded t) : Guarded (group t)
  | array {t : TypeTree} (element : Guarded t) (alone : ∀ left right, t ≠ union left right) :
      Guarded (array t)
  | union {left right : TypeTree} (first : Guarded left) (second : Guarded right) :
      Guarded (union left right)

end TypeTree

section Readings

variable {lexicon : Lexicon} {level : Level} {cs ds : List Char} {t u : TypeTree}

theorem Reads.ne_union (reads : Reads lexicon .primary cs t) (left right : TypeTree) :
    t ≠ .union left right := by
  cases reads <;> exact nofun

theorem guarded_arrays (guarded : t.Guarded) (alone : ∀ left right, t ≠ .union left right)
    (n : Nat) : (t.arrays n).Guarded ∧ ∀ left right, t.arrays n ≠ .union left right := by
  induction n with
  | zero => exact ⟨guarded, alone⟩
  | succ n ih => exact ⟨.array ih.1 ih.2, nofun⟩

theorem guarded_foldl {alternatives : List TypeTree} (guarded : t.Guarded)
    (each : ∀ u ∈ alternatives, u.Guarded) : (alternatives.foldl .union t).Guarded := by
  induction alternatives generalizing t with
  | nil => exact guarded
  | cons u rest ih =>
      rw [List.forall_mem_cons] at each
      exact ih (.union guarded each.1) each.2

theorem Reads.guarded (reads : Reads lexicon level cs t) : t.Guarded := by
  induction reads with
  | name _ => exact .name _
  | generic _ _ _ ih =>
      refine .generic _ fun a mem => ?_
      obtain ⟨pair, inside, rfl⟩ := List.mem_map.mp mem
      exact ih pair inside
  | group _ ih => exact .group ih
  | arrays element n ih => exact (guarded_arrays ih element.ne_union n).1
  | union _ ih =>
      rw [List.forall_mem_cons] at ih
      exact guarded_foldl ih.1 (List.forall_mem_map.mpr ih.2)

theorem Reads.suffixed (reads : Reads lexicon .primary cs t) : Reads lexicon .suffixed cs t := by
  have alone := Reads.arrays reads 0
  rw [brackets, List.append_nil] at alone
  exact alone

theorem Reads.alone (reads : Reads lexicon .suffixed cs t) : Reads lexicon .union cs t := by
  have each : ∀ m ∈ [(cs, t)], Reads lexicon .suffixed m.1 m.2 := by simpa using reads
  have alone := Reads.union each
  simpa using alone

theorem Reads.or (first : Reads lexicon .union cs t) (second : Reads lexicon .suffixed ds u) :
    Reads lexicon .union (cs ++ [' ', '|', ' '] ++ ds) (.union t u) := by
  cases first with
  | @union first rest each =>
    have more : ∀ m ∈ first :: (rest ++ [(ds, u)]), Reads lexicon .suffixed m.1 m.2 := by
      rw [← List.cons_append, List.forall_mem_append]
      exact ⟨each, by simpa using second⟩
    have longer := Reads.union more
    rw [← List.cons_append, List.map_append, List.map_append, List.foldl_append] at longer
    rw [List.append_assoc, ← intercalate_append_singleton _ (by simp)]
    exact longer

theorem brackets_append (n : Nat) : brackets n ++ ['[', ']'] = brackets (n + 1) := by
  induction n with
  | zero => rfl
  | succ n ih => rw [brackets, List.cons_append, List.cons_append, ih, ← brackets]

theorem Reads.array (reads : Reads lexicon .suffixed cs t) :
    Reads lexicon .suffixed (cs ++ ['[', ']']) (.array t) := by
  cases reads with
  | arrays element n =>
    rw [List.append_assoc, brackets_append]
    exact Reads.arrays element (n + 1)

/-- An expression without a bar between two blanks is a single alternative. -/
theorem Reads.suffixed_of_not_infix (reads : Reads lexicon .union cs t)
    (single : ¬ [' ', '|', ' '] <:+: cs) : Reads lexicon .suffixed cs t := by
  cases reads with
  | @union first rest each =>
    cases rest with
    | nil => simpa using each
    | cons second rest =>
      rw [List.map_cons, List.map_cons, List.intercalate_cons_cons, List.append_assoc] at single
      exact absurd ((List.prefix_append _ _).isInfix.trans (List.suffix_append _ _).isInfix) single

end Readings

end ApiCompiler.TypeScript
