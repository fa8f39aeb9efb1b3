import ApiCompiler.Proofs.Datatype.Grammar

/-!
# Reading what was rendered

Rendering puts a blank behind every comma, and reading drops the blanks around a
parameter. A tree is read back from its text exactly if it is well formed: the
name of the whole reference may hold commas and blanks at its ends, the names
below it may not.
-/

namespace ApiCompiler.Datatype

open Text

/-- A node has a name, and a parameter list is not empty. -/
structure IsNode (d : Datatype) : Prop where
  params_ne : d.params? ≠ some []
  isName : IsName d.name

/-- A node below another one: its name has no comma and no blank at an end that
is an end of the parameter. A bracket may follow a blank. -/
structure IsParameter (d : Datatype) : Prop where
  noComma : ',' ∉ d.name.toList
  noLeading : ∀ c, d.name.toList.head? = some c → isBlank c = false
  noTrailing : d.params? = none → ∀ c, d.name.toList.getLast? = some c → isBlank c = false

/-- The trees that reading produces. -/
structure WellFormed (d : Datatype) : Prop where
  nodes : ∀ node ∈ d.nodes, IsNode node
  below : ∀ node ∈ nodesOf d.params, IsParameter node

/-! ## Well-formed trees -/

theorem IsName.toList_ne_nil {name : String} (isName : IsName name) : name.toList ≠ [] := by
  intro empty
  have blank : isBlankText name = true := by rw [isBlankText, empty, List.all_nil]
  rw [isName.notBlank] at blank
  contradiction

theorem WellFormed.isNode {d : Datatype} (wf : WellFormed d) : IsNode d :=
  wf.nodes d (self_mem_nodes d)

theorem WellFormed.isParameter {d p : Datatype} (wf : WellFormed d) (mem : p ∈ d.params) :
    IsParameter p :=
  wf.below p (mem_nodesOf_iff.mpr ⟨p, mem, self_mem_nodes p⟩)

/-- The parameters of a well-formed tree are well formed. -/
theorem WellFormed.param {d p : Datatype} (wf : WellFormed d) (mem : p ∈ d.params) :
    WellFormed p where
  nodes node nodeMem := by
    apply wf.nodes node
    rw [nodes_eq_cons]
    exact List.mem_cons_of_mem d (mem_nodesOf_iff.mpr ⟨p, mem, nodeMem⟩)
  below node nodeMem := by
    apply wf.below node
    rw [mem_nodesOf_iff]
    refine ⟨p, mem, ?_⟩
    rw [nodes_eq_cons]
    exact List.mem_cons_of_mem p nodeMem

/-- A tree is well formed if its root is a node and its parameters are
well-formed parameters. -/
theorem WellFormed.of_params {d : Datatype} (isNode : IsNode d)
    (each : ∀ p ∈ d.params, WellFormed p ∧ IsParameter p) : WellFormed d where
  nodes node mem := by
    rw [nodes_eq_cons] at mem
    rcases List.mem_cons.mp mem with rfl | mem
    · exact isNode
    · obtain ⟨p, paramMem, nodeMem⟩ := mem_nodesOf_iff.mp mem
      exact (each p paramMem).1.nodes node nodeMem
  below node mem := by
    obtain ⟨p, paramMem, nodeMem⟩ := mem_nodesOf_iff.mp mem
    rw [nodes_eq_cons] at nodeMem
    rcases List.mem_cons.mp nodeMem with rfl | deeper
    · exact (each node paramMem).2
    · exact (each p paramMem).1.below node deeper

/-! ## Rendered texts are derivable -/

/-- The pieces of the text of a parameter list. -/
def renderedPieces : List Datatype → List String
  | [] => []
  | first :: rest => first.render :: rest.map fun d => " " ++ d.render

theorem append_renderRest (text : String) (rest : List Datatype) :
    text ++ renderRest rest = joinWith "," (text :: rest.map fun d => " " ++ d.render) := by
  induction rest generalizing text with
  | nil => simp [renderRest, joinWith]
  | cons d rest ih =>
      have more := ih (" " ++ d.render)
      rw [List.map_cons, joinWith, String.intercalate_cons_cons, ← joinWith, ← more, renderRest]
      simp [← String.toList_inj]

theorem render_generic (name : String) {params : List Datatype} (nonempty : params ≠ []) :
    (mk name (some params)).render =
      name ++ "[" ++ joinWith "," (renderedPieces params) ++ "]" := by
  obtain ⟨first, rest, rfl⟩ := List.exists_cons_of_ne_nil nonempty
  rw [render, renderedPieces, ← append_renderRest]
  simp [← String.toList_inj]

theorem length_renderedPieces (params : List Datatype) :
    (renderedPieces params).length = params.length := by
  cases params <;> simp [renderedPieces]

/-- A piece is the text of its parameter, behind the first with a blank. -/
theorem of_mem_zip_renderedPieces {params : List Datatype} {piece : String} {d : Datatype}
    (mem : (piece, d) ∈ (renderedPieces params).zip params) :
    d ∈ params ∧ (piece = d.render ∨ piece = " " ++ d.render) := by
  cases params with
  | nil => simp [renderedPieces] at mem
  | cons first rest =>
      rw [renderedPieces, List.zip_cons_cons, List.mem_cons, ← List.map_prod_right_eq_zip,
        List.mem_map] at mem
      rcases mem with eq | ⟨p, paramMem, eq⟩
      · cases eq
        exact ⟨List.mem_cons_self, .inl rfl⟩
      · cases eq
        exact ⟨List.mem_cons_of_mem first paramMem, .inr rfl⟩

/-- The text of a parameter has no blank at its ends. -/
theorem trimBy_render {d : Datatype} (isNode : IsNode d) (isParameter : IsParameter d) :
    trimBy isBlank d.render.toList = d.render.toList := by
  rcases d with ⟨name, _ | params⟩
  · exact trimBy_eq_self isParameter.noLeading (isParameter.noTrailing rfl)
  · have nonempty : params ≠ [] := fun empty => isNode.params_ne (congrArg some empty)
    rw [render_generic name nonempty, toList_generic]
    obtain ⟨c, rest, chars⟩ := List.exists_cons_of_ne_nil isNode.isName.toList_ne_nil
    apply trimBy_eq_self
    · intro first head
      apply isParameter.noLeading
      rw [name_mk] at chars ⊢
      rw [chars] at head ⊢
      exact head
    · intro last tail
      have isBracket : last = ']' := by
        simpa [List.getLast?_append, List.getLast?_cons] using tail.symm
      rw [isBracket]
      decide

/-- The text of a well-formed tree derives it. -/
theorem WellFormed.derives {d : Datatype} (wf : WellFormed d) : Derives d.render d := by
  induction d with
  | plain name => exact .plain wf.isNode.isName
  | generic name params ih =>
      have nonempty : params ≠ [] := fun empty => wf.isNode.params_ne (congrArg some empty)
      rw [render_generic name nonempty]
      refine .generic wf.isNode.isName ?_ (length_renderedPieces params) ?_ ?_
      · intro empty
        apply nonempty
        rw [← List.length_eq_zero_iff, ← length_renderedPieces, empty, List.length_nil]
      · intro piece d paired
        obtain ⟨mem, text⟩ := of_mem_zip_renderedPieces paired
        have trimmed : trim piece = d.render := by
          have kept := trimBy_render (wf.param mem).isNode (wf.isParameter mem)
          rw [← String.toList_inj, toList_trim]
          rcases text with rfl | rfl
          · exact kept
          · rw [String.toList_append]
            exact (trimBy_cons_of_pos (by decide) _).trans kept
        rw [trimmed]
        exact ih d mem (wf.param mem)
      · intro d mem
        exact (wf.isParameter mem).noComma

/-! ## Derivable trees are well formed -/

/-- What is read between two commas is a parameter. Its name begins the trimmed
piece, and without a list it also ends it. -/
theorem Derives.isParameter {piece : String} {d : Datatype} (derives : Derives (trim piece) d)
    (noComma : ',' ∉ d.name.toList) : IsParameter d where
  noComma := noComma
  noLeading c head := by
    rw [derives.toList_name, toList_trim] at head
    obtain ⟨rest, split⟩ := List.takeWhile_prefix (· != '[') (l := trimBy isBlank piece.toList)
    apply head?_trimBy
    rw [← split, List.head?_append, head]
    rfl
  noTrailing plain c last := by
    generalize text : trim piece = s at derives
    cases derives with
    | plain isName =>
        apply getLast?_trimBy
        rw [← toList_trim, text]
        exact last
    | generic _ _ _ _ _ => contradiction

/-- Reading produces well-formed trees. -/
theorem Derives.wellFormed {s : String} {d : Datatype} (derives : Derives s d) : WellFormed d := by
  induction derives with
  | @plain name isName =>
      refine .of_params ⟨nofun, isName⟩ fun p mem => ?_
      rw [params_mk_none] at mem
      contradiction
  | @generic name pieces params isName nonempty length_eq each noComma ih =>
      refine .of_params ⟨?_, isName⟩ fun p mem => ?_
      · rw [params?_mk, Ne, Option.some.injEq]
        rintro rfl
        exact nonempty (List.length_eq_zero_iff.mp length_eq)
      · rw [params_mk_some] at mem
        obtain ⟨piece, paired⟩ := exists_zip_mem length_eq mem
        exact ⟨ih paired, (each paired).isParameter (noComma p mem)⟩

theorem parse_render {d : Datatype} (wf : WellFormed d) : parse d.render = .ok d :=
  parse_eq_ok_iff.mpr wf.derives

theorem wellFormed_of_parse {s : String} {d : Datatype} (read : parse s = .ok d) : WellFormed d :=
  (parse_eq_ok_iff.mp read).wellFormed

/-- Reading undoes rendering exactly on the well-formed trees, which are the trees
that reading produces. So rendering what was read is a canonical text: it is read
as the same tree, and equal trees are those with equal texts. -/
theorem parse_render_exact :
    (∀ d, (∃ e, parse d.render = .ok e ∧ e.equal d = true) ↔ WellFormed d) ∧
      (∀ s d, parse s = .ok d → WellFormed d) ∧
      ∀ s t a b, parse s = .ok a → parse t = .ok b →
        parse a.render = .ok a ∧ (a.equal b = true ↔ a.render = b.render) := by
  refine ⟨fun d => ⟨?_, fun wf => ?_⟩, fun s d => wellFormed_of_parse, ?_⟩
  · rintro ⟨e, read, same⟩
    rw [equal_eq_true_iff] at same
    subst e
    exact wellFormed_of_parse read
  · exact ⟨d, parse_render wf, (equal_eq_true_iff d d).mpr rfl⟩
  · intro s t a b readA readB
    have canonicalA := parse_render (wellFormed_of_parse readA)
    have canonicalB := parse_render (wellFormed_of_parse readB)
    refine ⟨canonicalA, ?_⟩
    rw [equal_eq_true_iff]
    constructor
    · exact congrArg render
    · intro texts
      rw [texts, canonicalB] at canonicalA
      exact (Except.ok.inj canonicalA).symm

end ApiCompiler.Datatype
