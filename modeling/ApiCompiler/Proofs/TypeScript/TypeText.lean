import ApiCompiler.Proofs.Convert.Targets
import ApiCompiler.Proofs.TypeScript.TypeGrammar
import ApiCompiler.Target.TypeScript.Types

/-!
# The text of types in TypeScript

Type expressions are put together from the texts of their parameters, and a union in them is found
by its bar. What comes out has the tree of the reference, up to parentheses.
-/

namespace ApiCompiler.TypeScript

open Text

/-! ## What a reference means -/

/-- The name of a type without parameters. -/
def aliasOf (name : String) : String :=
  match name with
  | "integer" => "Integer"
  | "double" => "Double"
  | "datetime" => "Date"
  | "decimal" => "Decimal"
  | name => name

/-- The meaning of a type from the meanings of its parameters. -/
def compose (name : String) (params : List TypeTree) : TypeTree :=
  match name, params with
  | "list", [t] => .array t
  | "set", [t] => .generic "Set" [t]
  | "map", [key, value] => .generic "Map" [key, value]
  | "optional", [t] => .union t (.name "undefined")
  | name, _ => .name (aliasOf name)

mutual

/-- The meaning of a reference. -/
def translation : Datatype → TypeTree
  | .mk name none => compose name []
  | .mk name (some params) => compose name (translations params)

/-- The meanings of several references. -/
def translations : List Datatype → List TypeTree
  | [] => []
  | d :: rest => translation d :: translations rest

end

/-- A text is written for a meaning: it can be read, and the tree has this meaning. -/
def Writes (lexicon : Lexicon) (text : String) (meaning : TypeTree) : Prop :=
  ∃ t, Reads lexicon .union text.toList t ∧ t.bare = meaning

section Meaning

variable {lexicon : Lexicon}

theorem translation_eq (d : Datatype) : translation d = compose d.name (translations d.params) := by
  rcases d with ⟨name, _ | params⟩ <;> rfl

theorem forall₂_translations {ds : List Datatype} {texts : List String}
    (each : List.Forall₂ (fun d text => Writes lexicon text (translation d)) ds texts) :
    List.Forall₂ (Writes lexicon) texts (translations ds) := by
  induction each with
  | nil => exact .nil
  | cons first _ ih => exact .cons first ih

theorem compose_nil (name : String) : compose name [] = .name (aliasOf name) := by
  unfold compose
  split
  all_goals first | rfl | contradiction

/-- A template without placeholders is the name that a type goes by, and there are four others. -/
theorem typeTemplates_shape : ∀ e ∈ typeTemplates.entries,
    (Templates.arityOf e.2 = 0 ∧ typeBackend.render e.1 e.2 [] = aliasOf e.1 ∧
      aliasOf e.1 ∈ builtinNames) ∨
    e ∈ [("list", "?[]"), ("set", "Set<?>"), ("map", "Map<?, ?>"),
      ("optional", "? | undefined")] := by
  decide

theorem aliasOf_of_get? {name : String} (custom : typeTemplates.get? name = none) :
    aliasOf name = name := by
  unfold aliasOf
  split
  all_goals first | rfl | exact nomatch custom

theorem writes_name {name : String} (identifier : lexicon.IsIdentifier name) :
    Writes lexicon name (.name name) :=
  ⟨.name name, (Reads.name identifier).suffixed.alone, rfl⟩

theorem toList_render {name template : String} (texts : List String)
    (plain : dropStart? runtimeMark template = none) :
    (typeBackend.render name template texts).toList =
      Templates.fill template.toList (if name == "list" then texts.map asElement else texts) := by
  dsimp only [typeBackend]
  rw [plain]
  exact String.toList_ofList

theorem writes_list {text : String} {meaning : TypeTree} (writes : Writes lexicon text meaning) :
    Writes lexicon (typeBackend.render "list" "?[]" [text]) (.array meaning) := by
  obtain ⟨t, reads, rfl⟩ := writes
  have element : ∃ u, Reads lexicon .suffixed (asElement text).toList u ∧ u.bare = t.bare := by
    unfold asElement
    split
    -- the bar may also stand inside an argument; then the parentheses are not needed, but harmless
    · refine ⟨.group t, ?_, rfl⟩
      have group := (Reads.group reads).suffixed
      simpa using group
    · rename_i single
      rw [occursIn_eq_true_iff] at single
      exact ⟨t, reads.suffixed_of_not_infix single, rfl⟩
  obtain ⟨u, inner, same⟩ := element
  have written : (typeBackend.render "list" "?[]" [text]).toList =
      (asElement text).toList ++ ['[', ']'] := by
    rw [toList_render _ (by decide)]
    simp [Templates.fill, Templates.placeholder]
  refine ⟨.array u, ?_, by rw [TypeTree.bare, same]⟩
  rw [written]
  exact inner.array.alone

theorem exists_args {texts : List String} {meanings : List TypeTree}
    (each : List.Forall₂ (Writes lexicon) texts meanings) :
    ∃ args : List (List Char × TypeTree), args.map (·.1) = texts.map String.toList ∧
      (∀ a ∈ args, Reads lexicon .union a.1 a.2) ∧
      TypeTree.bareAll (args.map (·.2)) = meanings := by
  induction each with
  | nil => exact ⟨[], rfl, nofun, rfl⟩
  | @cons text _ texts _ first _ ih =>
      obtain ⟨t, reads, rfl⟩ := first
      obtain ⟨args, spelled, others, rfl⟩ := ih
      refine ⟨(text.toList, t) :: args, ?_, List.forall_mem_cons.mpr ⟨reads, others⟩, rfl⟩
      rw [List.map_cons, List.map_cons, spelled]

theorem writes_generic {name text : String} {texts : List String} {meanings : List TypeTree}
    (builtin : name ∈ builtinNames) (nonempty : texts ≠ [])
    (params : List.Forall₂ (Writes lexicon) texts meanings)
    (written : text.toList =
      name.toList ++ '<' :: ([',', ' '].intercalate (texts.map String.toList) ++ ['>'])) :
    Writes lexicon text (.generic name meanings) := by
  obtain ⟨args, spelled, each, rfl⟩ := exists_args params
  have some : args ≠ [] := by
    rintro rfl
    exact nonempty (List.map_eq_nil_iff.mp spelled.symm)
  have generic := Reads.generic (lexicon.builtin name builtin) some each
  refine ⟨.generic name (args.map (·.2)), ?_, rfl⟩
  rw [written, ← spelled]
  exact generic.suffixed.alone

theorem writes_optional {text : String} {meaning : TypeTree}
    (writes : Writes lexicon text meaning) :
    Writes lexicon (typeBackend.render "optional" "? | undefined" [text])
      (.union meaning (.name "undefined")) := by
  obtain ⟨t, reads, rfl⟩ := writes
  have written : (typeBackend.render "optional" "? | undefined" [text]).toList =
      text.toList ++ [' ', '|', ' '] ++ "undefined".toList := by
    rw [toList_render _ (by decide)]
    simp [Templates.fill, Templates.placeholder]
  refine ⟨.union t (.name "undefined"), ?_, rfl⟩
  rw [written]
  exact reads.or (Reads.name (lexicon.builtin "undefined" (by decide))).suffixed

/-- What is written for a builtin type has the meaning composed of those of its parameters. -/
theorem writes_render {name template : String} {texts : List String} {meanings : List TypeTree}
    (found : typeTemplates.get? name = some template)
    (length : texts.length = Templates.arityOf template)
    (params : List.Forall₂ (Writes lexicon) texts meanings) :
    Writes lexicon (typeBackend.render name template texts) (compose name meanings) := by
  obtain ⟨e, first, rfl⟩ := Option.map_eq_some_iff.mp found
  obtain rfl : e.1 = name := by simpa using List.find?_some first
  rcases typeTemplates_shape e (List.mem_of_find?_eq_some first) with
    ⟨none, written, builtin⟩ | generic
  · rw [none] at length
    obtain rfl := List.eq_nil_of_length_eq_zero length
    cases params
    rw [compose_nil, written]
    exact writes_name (lexicon.builtin _ builtin)
  · simp only [List.mem_cons, List.not_mem_nil, or_false] at generic
    rcases generic with rfl | rfl | rfl | rfl
    · obtain ⟨text, rfl⟩ := List.length_eq_one_iff.mp (length.trans (by decide))
      cases params with
      | cons writes rest =>
        cases rest
        exact writes_list writes
    · obtain ⟨text, rfl⟩ := List.length_eq_one_iff.mp (length.trans (by decide))
      have written : (typeBackend.render "set" "Set<?>" [text]).toList =
          "Set".toList ++ '<' :: ([',', ' '].intercalate [text.toList] ++ ['>']) := by
        rw [toList_render _ (by decide)]
        simp [Templates.fill, Templates.placeholder]
      have generic := writes_generic (by decide) (List.cons_ne_nil _ _) params written
      cases params with
      | cons _ rest =>
        cases rest
        exact generic
    · obtain ⟨key, value, rfl⟩ := List.length_eq_two.mp (length.trans (by decide))
      have written : (typeBackend.render "map" "Map<?, ?>" [key, value]).toList =
          "Map".toList ++ '<' :: ([',', ' '].intercalate [key.toList, value.toList] ++ ['>']) := by
        rw [toList_render _ (by decide)]
        simp [Templates.fill, Templates.placeholder]
      have generic := writes_generic (by decide) (List.cons_ne_nil _ _) params written
      cases params with
      | cons _ rest =>
        cases rest with
        | cons _ rest =>
          cases rest
          exact generic
    · obtain ⟨text, rfl⟩ := List.length_eq_one_iff.mp (length.trans (by decide))
      cases params with
      | cons writes rest =>
        cases rest
        exact writes_optional writes

theorem writes_node {p : Project} {current : String}
    (named : ∀ e ∈ p.moduleList, ∀ name, e.2.hasType name = true → lexicon.IsIdentifier name)
    (d : Datatype) (values : List String)
    (v : Visit String) (admits : Converter.Admits ⟨p, current, typeBackend, importSource⟩ d)
    (params : List.Forall₂ (fun d text => Writes lexicon text (translation d)) d.params values)
    (shown : Converter.view ⟨p, current, typeBackend, importSource⟩ d values = some v) :
    Writes lexicon v.rendered (translation d) := by
  rw [Converter.Admits] at admits
  rw [Converter.view] at shown
  dsimp only at admits shown
  rw [translation_eq]
  cases found : typeTemplates.get? d.name with
  | some template =>
      rw [show typeBackend.templates = typeTemplates from rfl, found] at admits shown
      obtain rfl := Option.some.inj shown
      exact writes_render found (params.length_eq.symm.trans admits) (forall₂_translations params)
  | none =>
      rw [show typeBackend.templates = typeTemplates from rfl, found] at admits shown
      obtain ⟨loc, located, rfl⟩ := Option.map_eq_some_iff.mp shown
      have plain : translations d.params = [] := by
        rw [Datatype.params, admits.1]
        rfl
      rw [plain, compose_nil, aliasOf_of_get? found]
      obtain ⟨e, declares, rfl⟩ := Option.map_eq_some_iff.mp located
      have declared : e.2.hasType d.name = true :=
        List.find?_some (p := fun (e : String × Module) => e.2.hasType d.name) declares
      exact writes_name (named e (List.mem_of_find?_eq_some declares) d.name declared)

/-- The type expression that is written for a reference can be read in one way only. Without
its parentheses it is the meaning of the reference, and no element of an array is a union without
parentheses. -/
theorem type_exact (lexicon : Lexicon) {p : Project}
    (named : ∀ e ∈ p.moduleList, ∀ name, e.2.hasType name = true → lexicon.IsIdentifier name)
    {current reference text : String} {m : Module} {im im' : Imports}
    (converted : Scope.type ⟨p, current, m⟩ reference im = .ok (text, im')) :
    ∃ d t, Datatype.parse reference = .ok d ∧
      (∀ u, Reads lexicon .union text.toList u ↔ u = t) ∧ t.bare = translation d ∧ t.Guarded := by
  have result : (Converter.convert ⟨p, current, typeBackend, importSource⟩ reference).result =
      .ok text := by
    obtain ⟨rendered, result, eq⟩ := Fallible.map_eq_ok_iff.mp converted
    obtain ⟨rfl, -⟩ := Prod.mk.inj eq
    exact result
  obtain ⟨d, read, t, reads, meaning⟩ := Converter.convert_interprets (writes_node named) result
  refine ⟨d, t, read, fun u => ⟨fun other => other.unique reads, ?_⟩, meaning, reads.guarded⟩
  rintro rfl
  exact reads

/-- The identifiers that need no quotes as the names of properties. -/
def Lexicon.unquoted : Lexicon where
  IsIdentifier name := isIdentifier name = true
  builtin := by decide
  ne_nil := by
    intro name identifier empty
    rw [isIdentifier, empty] at identifier
    exact nomatch identifier
  plain := by
    intro name identifier c mem mark
    have excluded : marks.all (fun c => !isIdentifierChar c) = true := by decide
    have inside : isIdentifierChar c = true := by
      unfold isIdentifier at identifier
      split at identifier
      · exact nomatch identifier
      · rename_i d rest spelled
        rw [Bool.and_eq_true, ← spelled, List.all_eq_true] at identifier
        exact identifier.2 c mem
    have outside := List.all_eq_true.mp excluded c mark
    rw [inside] at outside
    exact nomatch outside

/-- A union gets parentheses as the element of an array, and none as an argument. -/
theorem type_exact_todo :
    (∀ e ∈ Project.todo.moduleList, ∀ name, e.2.hasType name = true →
      Lexicon.unquoted.IsIdentifier name) ∧
    (∃ im, Scope.type ⟨.todo, "todo", .todo⟩ "list[optional[map[Item, optional[Page]]]]" (.new "") =
      .ok ("(Map<Item, Page | undefined> | undefined)[]", im)) ∧
    ∃ d t, Datatype.parse "list[optional[map[Item, optional[Page]]]]" = .ok d ∧
      (∀ u, Reads .unquoted .union "(Map<Item, Page | undefined> | undefined)[]".toList u ↔
        u = t) ∧ t.bare = translation d ∧ t.Guarded := by
  have named : ∀ e ∈ Project.todo.moduleList, ∀ name, e.2.hasType name = true →
      Lexicon.unquoted.IsIdentifier name := by
    have identifiers : ∀ e ∈ Project.todo.moduleList, ∀ types ∈ e.2.types, ∀ name ∈ types.keys,
        isIdentifier name = true := by decide
    intro e mem name has
    obtain ⟨types, declares, inside⟩ := (Option.any_eq_true _ _).mp has
    have declared : name ∈ types.keys := by
      by_contra absent
      rw [OrderedMap.contains, OrderedMap.get?_eq_none_iff.mpr absent] at inside
      exact nomatch inside
    exact identifiers e mem types declares name declared
  have result : (Converter.convert ⟨.todo, "todo", typeBackend, importSource⟩
      "list[optional[map[Item, optional[Page]]]]").result =
      .ok "(Map<Item, Page | undefined> | undefined)[]" :=
    Fallible.toOption_eq_some_iff.mp (by decide +kernel)
  obtain ⟨im, written⟩ : ∃ im, Scope.type ⟨.todo, "todo", .todo⟩
      "list[optional[map[Item, optional[Page]]]]" (.new "") =
      .ok ("(Map<Item, Page | undefined> | undefined)[]", im) := by
    rw [Scope.type, Emit.convert, result]
    exact ⟨_, rfl⟩
  exact ⟨named, ⟨im, written⟩, type_exact .unquoted named written⟩

end Meaning

end ApiCompiler.TypeScript
