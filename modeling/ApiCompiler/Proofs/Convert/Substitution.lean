import ApiCompiler.Proofs.Convert.Conversion
import Mathlib.Algebra.Ring.Nat

/-!
# Templates with their parameters

A template is a sequence of plain pieces with a placeholder between neighbours. Its placeholders
are filled from the left. What was filled in is never looked at again, so a parameter may contain
the character of the placeholders, and a conversion brings no placeholder of a template into its
result.
-/

namespace ApiCompiler

open Text

namespace Templates

/-- The text of a placeholder. -/
def hole : String := String.singleton placeholder

/-- Pieces of text with a filler between neighbours. The text ends where the fillers end. -/
def weave (first : String) (fillers others : List String) : String :=
  first ++ String.join (List.zipWith (· ++ ·) fillers others)

@[simp]
theorem weave_nil_left (first : String) (others : List String) : weave first [] others = first :=
  String.append_empty

@[simp]
theorem weave_nil_right (first : String) (fillers : List String) :
    weave first fillers [] = first := by
  rw [weave, List.zipWith_nil_right]
  exact String.append_empty

theorem weave_cons (first filler next : String) (fillers others : List String) :
    weave first (filler :: fillers) (next :: others) =
      first ++ (filler ++ weave next fillers others) := by
  rw [weave, List.zipWith_cons_cons, String.join_cons, String.append_assoc, weave]

theorem toList_weave_cons (first filler next : String) (fillers others : List String) :
    (weave first (filler :: fillers) (next :: others)).toList =
      first.toList ++ (filler.toList ++ (weave next fillers others).toList) := by
  rw [weave_cons, String.toList_append, String.toList_append]

/-- Only as many fillers count as there are gaps. -/
theorem weave_take (first : String) (fillers others : List String) :
    weave first (fillers.take others.length) others = weave first fillers others := by
  induction others generalizing first fillers with
  | nil => rw [weave_nil_right, weave_nil_right]
  | cons next others ih =>
      cases fillers with
      | nil => rfl
      | cons filler fillers =>
          rw [List.length_cons, List.take_succ_cons, weave_cons, weave_cons, ih]

/-- The template with given pieces. -/
def ofPieces (first : String) (others : List String) : String :=
  weave first (List.replicate others.length hole) others

/-- Every template has pieces without placeholders. -/
theorem exists_ofPieces (template : String) : ∃ first others,
    (∀ piece ∈ first :: others, placeholder ∉ piece.toList) ∧ template = ofPieces first others := by
  obtain ⟨cs, rfl⟩ : ∃ cs, template = String.ofList cs :=
    ⟨template.toList, String.ofList_toList.symm⟩
  induction cs with
  | nil => exact ⟨"", [], by simp, by simp [ofPieces]⟩
  | cons c rest ih =>
      obtain ⟨first, others, plain, same⟩ := ih
      by_cases isHole : c = placeholder
      · refine ⟨"", first :: others, List.forall_mem_cons.mpr ⟨by simp, plain⟩, ?_⟩
        apply String.toList_inj.mp
        rw [ofPieces, List.length_cons, List.replicate_succ, toList_weave_cons, ← ofPieces, ← same,
          isHole]
        simp [hole]
      · rw [List.forall_mem_cons] at plain
        refine ⟨String.singleton c ++ first, others,
          List.forall_mem_cons.mpr ⟨?_, plain.2⟩, ?_⟩
        · simp [plain.1, Ne.symm isHole]
        · apply String.toList_inj.mp
          rw [ofPieces, weave, String.append_assoc, ← weave, ← ofPieces, ← same]
          simp

/-! ## Filling -/

theorem fill_nil (cs : List Char) : fill cs [] = cs := by
  cases cs with
  | nil => rfl
  | cons c cs => rfl

theorem fill_plain {plain : List Char} (none : placeholder ∉ plain) (rest : List Char)
    (params : List String) : fill (plain ++ rest) params = plain ++ fill rest params := by
  cases params with
  | nil => rw [fill_nil, fill_nil]
  | cons param params =>
      induction plain with
      | nil => rfl
      | cons c plain ih =>
          rw [List.mem_cons, not_or] at none
          rw [List.cons_append, fill, if_neg (Ne.symm none.1), ih none.2, List.cons_append]

theorem fill_hole (rest : List Char) (param : String) (params : List String) :
    fill (hole.toList ++ rest) (param :: params) = param.toList ++ fill rest params := by
  rw [hole, String.toList_singleton, List.singleton_append, fill, if_pos rfl]

/-- The parameters stand in the first gaps, and placeholders stay in the others. -/
theorem substitute_ofPieces {first : String} {others : List String}
    (plain : ∀ piece ∈ first :: others, placeholder ∉ piece.toList) (params : List String) :
    substitute (ofPieces first others) params =
      weave first (params ++ List.replicate (others.length - params.length) hole) others := by
  apply String.toList_inj.mp
  rw [substitute, String.toList_ofList]
  -- a filled gap shortens the template and the parameters by one, and nothing before it is read
  induction others generalizing first params with
  | nil =>
      have bare := fill_plain (plain first List.mem_cons_self) [] params
      rw [List.append_nil] at bare
      rw [ofPieces, weave_nil_right, weave_nil_right, bare, fill, List.append_nil]
  | cons next others ih =>
      rw [List.forall_mem_cons] at plain
      cases params with
      | nil => rw [fill_nil, List.nil_append, List.length_nil, Nat.sub_zero, ofPieces]
      | cons param params =>
          rw [ofPieces, List.length_cons, List.replicate_succ, toList_weave_cons, ← ofPieces,
            fill_plain plain.1, fill_hole, ih plain.2, List.cons_append, toList_weave_cons,
            List.length_cons, Nat.add_sub_add_right]

/-! ## Counting placeholders -/

theorem arityOf_append (s t : String) : arityOf (s ++ t) = arityOf s + arityOf t := by
  rw [arityOf, String.toList_append, List.count_append, arityOf, arityOf]

theorem arityOf_eq_zero_iff {s : String} : arityOf s = 0 ↔ placeholder ∉ s.toList :=
  List.count_eq_zero

/-- Plain pieces contribute no placeholders. -/
theorem arityOf_weave {first : String} {fillers others : List String}
    (plain : ∀ piece ∈ first :: others, placeholder ∉ piece.toList)
    (enough : fillers.length = others.length) :
    arityOf (weave first fillers others) = (fillers.map arityOf).sum := by
  induction others generalizing first fillers with
  | nil =>
      obtain rfl : fillers = [] := List.length_eq_zero_iff.mp enough
      rw [weave_nil_left]
      exact arityOf_eq_zero_iff.mpr (plain first List.mem_cons_self)
  | cons next others ih =>
      rw [List.forall_mem_cons, ← arityOf_eq_zero_iff] at plain
      cases fillers with
      | nil => exact nomatch enough
      | cons filler fillers =>
          rw [weave_cons, arityOf_append, arityOf_append, plain.1,
            ih plain.2 (Nat.succ.inj enough), Nat.zero_add, List.map_cons, List.sum_cons]

theorem arityOf_ofPieces {first : String} {others : List String}
    (plain : ∀ piece ∈ first :: others, placeholder ∉ piece.toList) :
    arityOf (ofPieces first others) = others.length := by
  have one : arityOf hole = 1 := rfl
  rw [ofPieces, arityOf_weave plain List.length_replicate, List.map_replicate, one,
    List.sum_replicate_nat, Nat.mul_one]

/-- A template with all its parameters has only the placeholders that they bring. -/
theorem arityOf_substitute {template : String} {params : List String}
    (all : params.length = arityOf template) :
    arityOf (substitute template params) = (params.map arityOf).sum := by
  obtain ⟨first, others, plain, rfl⟩ := exists_ofPieces template
  rw [arityOf_ofPieces plain] at all
  rw [substitute_ofPieces plain, all, Nat.sub_self, List.replicate_zero, List.append_nil,
    arityOf_weave plain all]

end Templates

/-! ## Targets of texts -/

/-- A target fills its templates: `bare` takes off what is not written, and `wrap` may put more
around a parameter. Neither brings a placeholder or takes one away. -/
structure Backend.FillsTemplates (b : Backend String) (bare : String → String)
    (wrap : String → String → String) : Prop where
  render (name template : String) (params : List String) : b.render name template params =
    Templates.substitute (bare template) (params.map (wrap name))
  arityOf_bare : ∀ e ∈ b.templates.entries, Templates.arityOf (bare e.2) = Templates.arityOf e.2
  arityOf_wrap (name param : String) :
    Templates.arityOf (wrap name param) = Templates.arityOf param

/-- A target that uses its templates and the parameters as they are. -/
theorem Backend.fillsTemplates_plain {b : Backend String}
    (render : ∀ name template params,
      b.render name template params = Templates.substitute template params) :
    b.FillsTemplates id fun _ => id where
  render name template params := by rw [render, id, List.map_id]
  arityOf_bare _ _ := rfl
  arityOf_wrap _ _ := rfl

theorem Backend.FillsTemplates.arityOf_of_get? {b : Backend String} {bare : String → String}
    {wrap : String → String → String} (fills : b.FillsTemplates bare wrap) {name template : String}
    (found : b.templates.get? name = some template) :
    Templates.arityOf (bare template) = Templates.arityOf template := by
  obtain ⟨e, first, rfl⟩ := Option.map_eq_some_iff.mp found
  exact fills.arityOf_bare e (List.mem_of_find?_eq_some first)

namespace TypeScript

theorem arityOf_asElement (type : String) :
    Templates.arityOf (asElement type) = Templates.arityOf type := by
  unfold asElement
  split
  · have bracket : Templates.arityOf "(" = 0 ∧ Templates.arityOf ")" = 0 := by decide
    rw [Templates.arityOf_append, Templates.arityOf_append, bracket.1, bracket.2, Nat.zero_add,
      Nat.add_zero]
  · rfl

/-- A template as it is written, without the mark of the runtime. -/
def bareTemplate (template : String) : String := (dropStart? runtimeMark template).getD template

/-- A parameter as it is written: the element of a list may need parentheses. -/
def wrapParameter (name : String) : String → String := if name == "list" then asElement else id

theorem fillsTemplates_typeBackend : typeBackend.FillsTemplates bareTemplate wrapParameter where
  render name template params := by
    dsimp only [typeBackend, wrapParameter, bareTemplate]
    split
    · rfl
    · rw [List.map_id]
  arityOf_bare := by decide
  arityOf_wrap name param := by
    unfold wrapParameter
    split
    · exact arityOf_asElement param
    · rfl

end TypeScript

/-! ## Converted types -/

namespace Converter

variable {S T : Type} {c : Converter T} {visit : Visitor S T}

theorem resolveAll_of_forall₂ {ds : List Datatype} {ts : List T}
    (each : List.Forall₂ (fun d t => ∀ s, ∃ s', c.resolve visit d s = (.ok t, s')) ds ts) (s : S) :
    ∃ s', c.resolveAll visit ds s = (.ok ts, s') := by
  induction each generalizing s with
  | nil => exact ⟨s, rfl⟩
  | @cons d t _ ts first _ ih =>
      obtain ⟨middle, converted⟩ := first s
      obtain ⟨last, others⟩ := ih middle
      exact ⟨last, resolveAll_cons_eq_ok_iff.mpr ⟨t, middle, ts, converted, others, rfl⟩⟩

/-- What a type is converted to does not depend on what was met before. -/
theorem result_of_resolve {d : Datatype} {seen seen' : List (Visit T)} {t : T}
    (result : c.resolve listing d seen = (.ok t, seen')) :
    (c.convertDatatype d).result = .ok t := by
  have everywhere : ∀ s, ∃ s', c.resolve listing d s = (.ok t, s') := by
    refine resolve_interprets (P := fun d t => ∀ s, ∃ s', c.resolve listing d s = (.ok t, s'))
      ?_ result
    intro d values v admits params shown s
    obtain ⟨middle, converted⟩ := resolveAll_of_forall₂ params s
    exact ⟨middle ++ [v], resolve_eq_ok_iff.mpr ⟨admits, values, middle, converted,
      complete_eq_some_iff.mpr ⟨v, shown, rfl⟩⟩⟩
  obtain ⟨_, converted⟩ := everywhere []
  exact congrArg Prod.fst converted

variable {c : Converter String} {bare : String → String} {wrap : String → String → String}

/-- A builtin type is its template with its converted parameters, as many as the template takes. -/
theorem result_builtin (fills : c.backend.FillsTemplates bare wrap) {d : Datatype}
    {template text : String} (found : c.backend.templates.get? d.name = some template)
    (converted : (c.convertDatatype d).result = .ok text) :
    ∃ texts, List.Forall₂ (fun p t => (c.convertDatatype p).result = .ok t) d.params texts ∧
      texts.length = Templates.arityOf template ∧
      text = Templates.substitute (bare template) (texts.map (wrap d.name)) := by
  have run : c.resolve listing d [] = (.ok text, (c.convertDatatype d).visits) :=
    Prod.ext converted rfl
  obtain ⟨admits, texts, middle, params, completed⟩ := resolve_eq_ok_iff.mp run
  obtain ⟨v, shown, answer⟩ := complete_eq_some_iff.mp completed
  have each : List.Forall₂ (fun p t => (c.convertDatatype p).result = .ok t) d.params texts := by
    apply (forall₂_of_resolveAll params).imp
    rintro p t ⟨s, s', parameter⟩
    exact result_of_resolve parameter
  rw [Admits, found] at admits
  rw [view, found] at shown
  obtain rfl : v.rendered = text := congrArg Prod.fst answer
  cases shown
  exact ⟨texts, each, each.length_eq.symm.trans admits, fills.render d.name template texts⟩

/-- The placeholders in the references to the custom types that nodes name. -/
def placeholdersIn (c : Converter String) (nodes : List Datatype) : Nat :=
  ((nodes.filterMap c.locate).map fun loc => Templates.arityOf (c.backend.reference loc)).sum

theorem placeholdersIn_append (nodes more : List Datatype) :
    c.placeholdersIn (nodes ++ more) = c.placeholdersIn nodes + c.placeholdersIn more := by
  rw [placeholdersIn, List.filterMap_append, List.map_append, List.sum_append]
  rfl

theorem sum_map_arityOf {ds : List Datatype} {texts : List String}
    (each : List.Forall₂ (fun d text => Templates.arityOf text = c.placeholdersIn d.nodes)
      ds texts) :
    (texts.map Templates.arityOf).sum = c.placeholdersIn (Datatype.nodesOf ds) := by
  induction each with
  | nil => rfl
  | cons first _ ih =>
      rw [List.map_cons, List.sum_cons, Datatype.nodesOf, placeholdersIn_append, first, ih]

/-- The placeholders of a converted type are those in the references to its custom types. -/
theorem arityOf_result (fills : c.backend.FillsTemplates bare wrap) {d : Datatype} {text : String}
    (converted : (c.convertDatatype d).result = .ok text) :
    Templates.arityOf text = c.placeholdersIn d.nodes := by
  have run : c.resolve listing d [] = (.ok text, (c.convertDatatype d).visits) :=
    Prod.ext converted rfl
  refine resolve_interprets
    (P := fun d text => Templates.arityOf text = c.placeholdersIn d.nodes) ?_ run
  intro d values v admits params shown
  rw [Datatype.nodes_eq_cons]
  rw [Admits] at admits
  rw [view] at shown
  cases found : c.backend.templates.get? d.name with
  | some template =>
      rw [found] at admits shown
      cases shown
      have hidden : c.locate d = none := by rw [locate, found]
      have all : (values.map (wrap d.name)).length = Templates.arityOf (bare template) := by
        rw [List.length_map, ← params.length_eq, admits, fills.arityOf_of_get? found]
      have wrapped : (values.map (wrap d.name)).map Templates.arityOf =
          values.map Templates.arityOf := by
        rw [List.map_map]
        exact List.map_congr_left fun param _ => fills.arityOf_wrap d.name param
      rw [fills.render, Templates.arityOf_substitute all, wrapped, sum_map_arityOf params,
        placeholdersIn, placeholdersIn, List.filterMap_cons_none hidden]
  | none =>
      rw [found] at admits shown
      obtain ⟨loc, located, rfl⟩ := Option.map_eq_some_iff.mp shown
      have named : c.locate d = some loc := by rw [locate, found]; exact located
      have plain : d.params = [] := by rw [Datatype.params, admits.1]; rfl
      rw [placeholdersIn, List.filterMap_cons_some named, plain]
      rfl

end Converter

/-- A template with placeholders between plain pieces takes as many parameters as it has
placeholders. It is filled from the left: with fewer parameters the other placeholders stay, and of
more parameters the first ones count. What a parameter contains is kept as it is, also a
placeholder. So a builtin type is converted to the pieces of its template between its converted
parameters, and the placeholders of a converted type are those in the references to its custom
types. All targets of texts fill their templates in this way. -/
theorem Templates.substitute_exact {first : String} {others : List String}
    (plain : ∀ piece ∈ first :: others, placeholder ∉ piece.toList) :
    arityOf (ofPieces first others) = others.length ∧
      (∀ params : List String, params.length = others.length →
        substitute (ofPieces first others) params = weave first params others) ∧
      (∀ params : List String, params.length < others.length →
        substitute (ofPieces first others) params =
          weave first (params ++ List.replicate (others.length - params.length) hole) others) ∧
      (∀ params : List String, others.length < params.length →
        substitute (ofPieces first others) params =
          weave first (params.take others.length) others) ∧
      (∀ (c : Converter String) (bare : String → String) (wrap : String → String → String),
        c.backend.FillsTemplates bare wrap →
          ∀ d text, (c.convertDatatype d).result = .ok text →
            (∀ template, c.backend.templates.get? d.name = some template →
              bare template = ofPieces first others →
                ∃ texts, List.Forall₂ (fun p t => (c.convertDatatype p).result = .ok t)
                    d.params texts ∧
                  texts.length = others.length ∧
                  text = weave first (texts.map (wrap d.name)) others) ∧
            arityOf text = c.placeholdersIn d.nodes) ∧
      Python.backend.FillsTemplates id (fun _ => id) ∧
      TypeScript.typeBackend.FillsTemplates TypeScript.bareTemplate TypeScript.wrapParameter ∧
      TypeScript.descriptorBackend.FillsTemplates id (fun _ => id) ∧
      (∀ current, (Go.typeBackend current).FillsTemplates id fun _ => id) ∧
      Go.refBackend.FillsTemplates id fun _ => id := by
  have exactly {params : List String} (all : params.length = others.length) :
      substitute (ofPieces first others) params = weave first params others := by
    rw [substitute_ofPieces plain, all, Nat.sub_self, List.replicate_zero, List.append_nil]
  refine ⟨arityOf_ofPieces plain, fun params => exactly, ?fewer, ?more, ?converted,
    Backend.fillsTemplates_plain fun _ _ _ => rfl, TypeScript.fillsTemplates_typeBackend,
    Backend.fillsTemplates_plain fun _ _ _ => rfl,
    fun current => Backend.fillsTemplates_plain fun _ _ _ => rfl,
    Backend.fillsTemplates_plain fun _ _ _ => rfl⟩
  case fewer =>
    intro params _
    exact substitute_ofPieces plain params
  case more =>
    intro params surplus
    rw [substitute_ofPieces plain, Nat.sub_eq_zero_of_le (Nat.le_of_lt surplus),
      List.replicate_zero, List.append_nil, weave_take]
  case converted =>
    intro c bare wrap fills d text converted
    refine ⟨?_, Converter.arityOf_result fills converted⟩
    intro template found same
    obtain ⟨texts, params, length, rfl⟩ := Converter.result_builtin fills found converted
    have all : texts.length = others.length := by
      rw [length, ← fills.arityOf_of_get? found, same, arityOf_ofPieces plain]
    refine ⟨texts, params, all, ?_⟩
    rw [same, exactly ((List.length_map _).trans all)]

/-- Placeholders inside parameters of a map stay, and so do the parentheses of an element. -/
theorem Templates.substitute_map :
    (∀ piece ∈ ["Map<", ", ", ">"], placeholder ∉ piece.toList) ∧
      substitute "Map<?, ?>" ["?", "b"] = "Map<?, b>" ∧
      substitute "Map<?, ?>" ["?"] = "Map<?, ?>" ∧
      substitute "Map<?, ?>" ["a", "b", "?"] = "Map<a, b>" ∧
      ∃ texts, texts.length = 2 ∧ weave "Map<" texts [", ", ">"] =
        "Map<string, (any | undefined)[]>" := by
  have plain : ∀ piece ∈ ["Map<", ", ", ">"], placeholder ∉ piece.toList := by decide
  obtain ⟨-, exactly, fewer, more, converted, -, typeExpressions, -⟩ := substitute_exact plain
  let anyMap : Datatype := .mk "map" (some [.mk "string" none,
    .mk "list" (some [.mk "optional" (some [.mk "any" none])])])
  obtain ⟨whole, -⟩ := converted ⟨.empty, "", TypeScript.typeBackend, id⟩ _ _ typeExpressions
    anyMap "Map<string, (any | undefined)[]>" (by decide)
  obtain ⟨texts, -, length, same⟩ := whole "Map<?, ?>" (by decide) (by decide)
  refine ⟨plain, exactly ["?", "b"] rfl, fewer ["?"] (by decide), more ["a", "b", "?"] (by decide),
    texts, length, ?_⟩
  rw [same]
  exact congrArg (weave "Map<" · [", ", ">"]) (List.map_id texts).symm

end ApiCompiler
