import ApiCompiler.Proofs.Writer.Strokes
import ApiCompiler.Proofs.Writer.Transfer
import Mathlib.Logic.Function.Basic

/-!
# Sections render in place

Every reachable tree of writers is drawn from the own strokes of its writers: with its sections
emptied, a writer is what its own strokes make of an empty writer, and the section that a stroke
made has the place and the level of that moment. The text of the root then depends on the own
strokes alone, whatever their order across writers was.
-/

namespace ApiCompiler

open Text

namespace Desk

variable {Name : Type} [DecidableEq Name]

theorem addSection_of_place {d : Desk Name} {on : Option Name} {place : Writer.Path} {w : Writer}
    (placed : d.place? on = some place) (found : d.root.at? place = some w) (name : Name) :
    d.addSection on name =
      ⟨d.root.modifyAt Writer.addSection place, (name, place ++ [w.nextSection]) :: d.places⟩ := by
  rw [addSection, writer?, placed, Option.bind_some, found]

theorem perform_of_plain (d : Desk Name) (on : Option Name) {s : Writer.Stroke Name}
    (plain : s.made? = none) : d.perform on s = d.change on s.draw := by
  cases s with
  | addSection name => cases plain
  | _ => rfl

theorem place?_addSection_self {d : Desk Name} {on : Option Name} {place : Writer.Path}
    {w : Writer} (placed : d.place? on = some place) (found : d.root.at? place = some w)
    (name : Name) :
    (d.addSection on name).place? (some name) = some (place ++ [w.nextSection]) := by
  simp [addSection_of_place placed found, place?]

theorem place?_addSection_of_ne {d : Desk Name} {on other : Option Name} {name : Name}
    (ne : other ≠ some name) : (d.addSection on name).place? other = d.place? other := by
  rw [addSection]
  split
  · cases other with
    | none => rfl
    | some other =>
      have apart : name ≠ other := by
        rintro rfl
        exact ne rfl
      simp [place?, apart]
  · rfl

end Desk

namespace Writer

variable {Name : Type} [DecidableEq Name]

theorem ownOf_append (first second : Trace Name) (on : Option Name) :
    ownOf (first ++ second) on = ownOf first on ++ ownOf second on := by
  simp [ownOf]

theorem ownOf_concat_self (trace : Trace Name) (on : Option Name) (s : Stroke Name) :
    ownOf (trace ++ [(on, s)]) on = ownOf trace on ++ [s] := by
  simp [ownOf]

theorem ownOf_concat_of_ne {on target : Option Name} (ne : target ≠ on) (trace : Trace Name)
    (s : Stroke Name) : ownOf (trace ++ [(target, s)]) on = ownOf trace on := by
  simp [ownOf, ne]

/-- A tree of writers is drawn from a trace: `known` are its writers, and `start` is the level at
which each of them begins. -/
structure Drawn (indent : String) (known : List (Option Name)) (trace : Trace Name)
    (start : Option Name → Nat) (d : Desk Name) : Prop where
  root_start : start none = 0
  placed (on : Option Name) : on ∈ known ↔ ∃ place, d.place? on = some place
  silent (on : Option Name) : on ∉ known → ownOf trace on = []
  apart (on other : Option Name) (place : Path) :
    d.place? on = some place → d.place? other = some place → on = other
  drawn (on : Option Name) (place : Path) : d.place? on = some place →
    ∃ w, d.root.at? place = some w ∧
      w.hollow = (sheet indent (start on) (ownOf trace on)).hollow
  sections (on : Option Name) (place : Path) (before : List (Stroke Name)) (name : Name)
    (after : List (Stroke Name)) : d.place? on = some place →
    ownOf trace on = before ++ .addSection name :: after →
    d.place? (some name) = some (place ++ [(sheet indent (start on) before).nextSection]) ∧
      start (some name) = (sheet indent (start on) before).level

namespace Drawn

variable {indent : String} {known : List (Option Name)} {trace : Trace Name}
  {start : Option Name → Nat} {d : Desk Name}

/-- The empty root. -/
theorem new (indent : String) :
    Drawn indent [none] ([] : Trace Name) (fun _ => 0) (Desk.new indent) where
  root_start := rfl
  placed on := by cases on <;> simp [Desk.place?, Desk.new]
  silent _ _ := rfl
  apart on other place here there := by
    cases on <;> cases other <;> simp_all [Desk.place?, Desk.new]
  drawn on place here := by
    cases on with
    | none =>
      cases here
      exact ⟨_, rfl, rfl⟩
    | some name => simp [Desk.place?, Desk.new] at here
  sections on place before name after here split := by simp [ownOf] at split

/-- A stroke keeps every writer that existed drawn. -/
theorem drawn_draw (state : Drawn indent known trace start d) {on : Option Name} {here : Path}
    (placed : d.place? on = some here) (s : Stroke Name) (other : Option Name) (place : Path)
    (found : d.place? other = some place) :
    ∃ w, (d.root.modifyAt s.draw here).at? place = some w ∧
      w.hollow = (sheet indent (start other) (ownOf (trace ++ [(on, s)]) other)).hollow := by
  rcases state.drawn other place found with ⟨w, isHere, alike⟩
  rcases eq_or_ne on other with rfl | ne
  · cases placed.symm.trans found
    refine ⟨s.draw w, at?_modifyAt_self s.own_draw isHere, ?_⟩
    rw [ownOf_concat_self, sheet_concat]
    exact s.own_draw.congr alike
  · have elsewhere : here ≠ place := by
      rintro rfl
      exact ne (state.apart on other here placed found)
    rw [ownOf_concat_of_ne ne]
    rcases at?_modifyAt_of_ne s.own_draw elsewhere isHere with ⟨w', isHere', alike'⟩
    exact ⟨w', isHere', alike'.trans alike⟩

/-- A section among the own strokes of a writer was made before the last stroke or by it. -/
theorem split_ownOf_concat {on other : Option Name} {s : Stroke Name}
    {before after : List (Stroke Name)} {name : Name}
    (split : ownOf (trace ++ [(on, s)]) other = before ++ .addSection name :: after) :
    (∃ after', ownOf trace other = before ++ .addSection name :: after') ∨
      on = other ∧ ownOf trace on = before ∧ s = .addSection name := by
  rcases eq_or_ne on other with rfl | ne
  · rw [ownOf_concat_self] at split
    rcases List.eq_nil_or_concat after with rfl | ⟨after', last, rfl⟩
    · right
      rcases List.append_inj' split rfl with ⟨same, lastSame⟩
      exact ⟨rfl, same, List.head_eq_of_cons_eq lastSame⟩
    · left
      refine ⟨after', ?_⟩
      rw [List.concat_eq_append, ← List.cons_append, ← List.append_assoc] at split
      exact (List.append_inj' split rfl).1
  · left
    rw [ownOf_concat_of_ne ne] at split
    exact ⟨after, split⟩

/-- A stroke that makes no section. -/
theorem stroke (state : Drawn indent known trace start d) {on : Option Name} (isKnown : on ∈ known)
    {s : Stroke Name} (plain : s.made? = none) :
    Drawn indent known (trace ++ [(on, s)]) start (d.perform on s) := by
  rcases (state.placed on).mp isKnown with ⟨here, placed⟩
  rw [d.perform_of_plain on plain]
  have same : ∀ other, (d.change on s.draw).place? other = d.place? other :=
    fun other => d.place?_change on other s.draw
  constructor
  case root_start => exact state.root_start
  case placed =>
    intro other
    rw [same]
    exact state.placed other
  case silent =>
    intro other unknown
    have ne : on ≠ other := by
      rintro rfl
      exact unknown isKnown
    rw [ownOf_concat_of_ne ne]
    exact state.silent other unknown
  case apart =>
    intro one other place
    rw [same, same]
    exact state.apart one other place
  case drawn =>
    intro other place found
    rw [same] at found
    rw [Desk.change_of_place placed]
    exact state.drawn_draw placed s other place found
  case sections =>
    intro other place before name after found split
    rw [same] at found ⊢
    rcases split_ownOf_concat split with ⟨after', earlier⟩ | ⟨-, -, rfl⟩
    · exact state.sections other place before name after' found earlier
    · cases plain

/-- A name that is not known has no place. -/
theorem place?_ne_of_fresh (state : Drawn indent known trace start d) {name : Name}
    (fresh : some name ∉ known) (place : Path) : d.place? (some name) ≠ some place := by
  intro found
  exact fresh ((state.placed _).mpr ⟨place, found⟩)

/-- No writer stands at the place of the next section. -/
theorem place?_ne_nextSection (state : Drawn indent known trace start d) {here : Path} {w : Writer}
    (isHere : d.root.at? here = some w) (other : Option Name) :
    d.place? other ≠ some (here ++ [w.nextSection]) := by
  intro found
  rcases state.drawn other _ found with ⟨v, isThere, -⟩
  rw [at?_nextSection isHere] at isThere
  cases isThere

/-- A new section stands apart from every writer, and leaves the others apart. -/
theorem apart_addSection (state : Drawn indent known trace start d) {on : Option Name}
    {here : Path} {w : Writer} (placed : d.place? on = some here)
    (isHere : d.root.at? here = some w) (name : Name) (one other : Option Name) (place : Path)
    (first : (d.addSection on name).place? one = some place)
    (second : (d.addSection on name).place? other = some place) : one = other := by
  have self := Desk.place?_addSection_self placed isHere name
  rcases eq_or_ne one (some name) with rfl | oneNe
  · rcases eq_or_ne other (some name) with rfl | otherNe
    · rfl
    · cases self.symm.trans first
      rw [Desk.place?_addSection_of_ne otherNe] at second
      exact absurd second (state.place?_ne_nextSection isHere other)
  · rw [Desk.place?_addSection_of_ne oneNe] at first
    rcases eq_or_ne other (some name) with rfl | otherNe
    · cases self.symm.trans second
      exact absurd first (state.place?_ne_nextSection isHere one)
    · rw [Desk.place?_addSection_of_ne otherNe] at second
      exact state.apart one other place first second

/-- A new section begins empty, at the level of its parent, with the indent of the tree. -/
theorem drawn_addSection (state : Drawn indent known trace start d) {on : Option Name}
    {here : Path} {w : Writer} (placed : d.place? on = some here)
    (isHere : d.root.at? here = some w) (name : Name) :
    (d.addSection on name).root.at? (here ++ [w.nextSection]) =
      some ⟨indent, w.level, []⟩ := by
  have sameIndent : w.indent = indent := by
    rcases state.drawn on here placed with ⟨v, isHere', alike⟩
    cases isHere.symm.trans isHere'
    rw [← indent_hollow, alike, indent_hollow, sheet, indent_drawAll]
  rw [Desk.addSection_of_place placed isHere, ← sameIndent]
  exact at?_modifyAt_addSection isHere

/-- The sections that the strokes have made, the last one among them, have the places and the
levels at which they were made. -/
theorem sections_addSection (state : Drawn indent known trace start d) {on : Option Name}
    {here : Path} {w : Writer} (placed : d.place? on = some here)
    (isHere : d.root.at? here = some w) {name : Name} (fresh : some name ∉ known)
    {other : Option Name} {place : Path} {before after : List (Stroke Name)} {made : Name}
    (found : d.place? other = some place)
    (split : ownOf (trace ++ [(on, .addSection name)]) other =
      before ++ .addSection made :: after) :
    (d.addSection on name).place? (some made) =
        some (place ++ [(sheet indent (start other) before).nextSection]) ∧
      Function.update start (some name) w.level (some made) =
        (sheet indent (start other) before).level := by
  rcases split_ownOf_concat split with ⟨after', earlier⟩ | ⟨rfl, rfl, same⟩
  · rcases state.sections other place before made after' found earlier with ⟨isPlaced, begins⟩
    have madeNe : some made ≠ some name := by
      intro same
      rw [same] at isPlaced
      exact state.place?_ne_of_fresh fresh _ isPlaced
    rw [Desk.place?_addSection_of_ne madeNe, Function.update_of_ne madeNe]
    exact ⟨isPlaced, begins⟩
  · cases same
    cases placed.symm.trans found
    rcases state.drawn on here placed with ⟨v, isHere', alike⟩
    cases isHere.symm.trans isHere'
    rw [Desk.place?_addSection_self placed isHere, Function.update_self, ← nextSection_hollow,
      ← level_hollow w, alike]
    exact ⟨by rw [nextSection_hollow], rfl⟩

/-- A stroke that makes a section. -/
theorem made (state : Drawn indent known trace start d) {on : Option Name} (isKnown : on ∈ known)
    {name : Name} (fresh : some name ∉ known) :
    ∃ level, Drawn indent (some name :: known) (trace ++ [(on, .addSection name)])
      (Function.update start (some name) level) (d.perform on (.addSection name)) := by
  rcases (state.placed on).mp isKnown with ⟨here, placed⟩
  rcases state.drawn on here placed with ⟨w, isHere, -⟩
  have self : (d.addSection on name).place? (some name) = some (here ++ [w.nextSection]) :=
    Desk.place?_addSection_self placed isHere name
  have old : ∀ other, other ≠ some name →
      (d.addSection on name).place? other = d.place? other :=
    fun other ne => Desk.place?_addSection_of_ne ne
  -- the new section has no strokes of its own yet
  have untouched : ownOf (trace ++ [(on, .addSection name)]) (some name) = [] := by
    rw [ownOf_concat_of_ne, state.silent _ fresh]
    rintro rfl
    exact fresh isKnown
  refine ⟨w.level, ?_⟩
  rw [Desk.perform]
  constructor
  case root_start =>
    rw [Function.update_of_ne (by simp)]
    exact state.root_start
  case placed =>
    intro other
    rcases eq_or_ne other (some name) with rfl | ne
    · simp [self]
    · rw [old other ne, List.mem_cons, or_iff_right ne]
      exact state.placed other
  case silent =>
    intro other unknown
    rw [List.mem_cons, not_or] at unknown
    have ne : on ≠ other := by
      rintro rfl
      exact unknown.2 isKnown
    rw [ownOf_concat_of_ne ne]
    exact state.silent other unknown.2
  case apart => exact state.apart_addSection placed isHere name
  case drawn =>
    intro other place found
    rcases eq_or_ne other (some name) with rfl | ne
    · cases self.symm.trans found
      refine ⟨_, state.drawn_addSection placed isHere name, ?_⟩
      rw [untouched, Function.update_self]
      rfl
    · rw [old other ne] at found
      rw [Function.update_of_ne ne, Desk.addSection_of_place placed isHere]
      exact state.drawn_draw placed (.addSection name) other place found
  case sections =>
    intro other place before made after found split
    have ne : other ≠ some name := by
      rintro rfl
      rw [untouched] at split
      simp at split
    rw [old other ne] at found
    rw [Function.update_of_ne ne]
    exact state.sections_addSection placed isHere fresh found split

/-- A stroke keeps a tree drawn, and the levels at which its writers begin. -/
theorem perform (state : Drawn indent known trace start d) {on : Option Name}
    (isKnown : on ∈ known) {s : Stroke Name}
    (fresh : ∀ name, s.made? = some name → some name ∉ known) :
    ∃ start', Drawn indent (s.made?.toList.map some ++ known) (trace ++ [(on, s)]) start'
      (d.perform on s) ∧ ∀ other ∈ known, start' other = start other := by
  cases made : s.made? with
  | none => exact ⟨start, state.stroke isKnown made, fun _ _ => rfl⟩
  | some name =>
    cases s with
    | addSection name' =>
      cases made
      have isNew := fresh name rfl
      rcases state.made isKnown isNew with ⟨level, state'⟩
      refine ⟨_, state', ?_⟩
      intro other otherKnown
      apply Function.update_of_ne
      rintro rfl
      exact isNew otherKnown
    | _ => cases made

/-- A run of strokes keeps a tree drawn, and the levels at which its writers begin. -/
theorem performAll (state : Drawn indent known trace start d) (run after : Trace Name)
    (legal : Scoped known (run ++ after)) :
    ∃ known' start', Drawn indent known' (trace ++ run) start' (d.performAll run) ∧
      Scoped known' after ∧ ∀ on ∈ known, on ∈ known' ∧ start' on = start on := by
  induction run generalizing known trace start d with
  | nil =>
    refine ⟨known, start, ?_, legal, fun on isKnown => ⟨isKnown, rfl⟩⟩
    rw [List.append_nil]
    exact state
  | cons first rest ih =>
    rcases first with ⟨on, s⟩
    rcases legal with ⟨isKnown, fresh, others⟩
    rcases state.perform isKnown fresh with ⟨start₁, state₁, same₁⟩
    rcases ih state₁ others with ⟨known₂, start₂, state₂, legal₂, same₂⟩
    rw [List.append_assoc] at state₂
    refine ⟨known₂, start₂, state₂, legal₂, ?_⟩
    intro other otherKnown
    rcases same₂ other (List.mem_append_right _ otherKnown) with ⟨still, begins⟩
    exact ⟨still, begins.trans (same₁ other otherKnown)⟩

/-- The level of a writer is what its own strokes leave. -/
theorem exists_writer (state : Drawn indent known trace start d) {on : Option Name}
    (isKnown : on ∈ known) :
    ∃ w, d.writer? on = some w ∧ w.level = levelAfterAll (start on) (ownOf trace on) := by
  rcases (state.placed on).mp isKnown with ⟨place, placed⟩
  rcases state.drawn on place placed with ⟨w, isHere, alike⟩
  refine ⟨w, ?_, ?_⟩
  · rw [Desk.writer?, placed]
    exact isHere
  · rw [← level_hollow, alike, level_hollow, level_sheet]

/-- The text of every writer is that of its own strokes in place. By recursion on the size of what
the writer holds: a section that one of the strokes made is one of its chunks. -/
theorem inPlace (state : Drawn indent known trace start d) (w : Writer) (on : Option Name)
    (place : Path) (placed : d.place? on = some place) (isHere : d.root.at? place = some w) :
    InPlace indent (ownOf trace) (start on) (ownOf trace on) w.text := by
  let inner : Nat → String := fun i => ((w.chunks[i]?).map Chunk.render).getD ""
  have alike : w.hollow = (sheet indent (start on) (ownOf trace on)).hollow := by
    rcases state.drawn on place placed with ⟨v, isHere', alike⟩
    cases isHere.symm.trans isHere'
    exact alike
  have sections : ∀ before name after, ownOf trace on = before ++ .addSection name :: after →
      InPlace indent (ownOf trace) (sheet indent (start on) before).level
        (ownOf trace (some name)) (inner (sheet indent (start on) before).nextSection) := by
    intro before name after split
    rcases state.sections on place before name after placed split with ⟨placed', begins⟩
    rcases state.drawn (some name) _ placed' with ⟨v, isThere, -⟩
    have inside := isThere
    rw [at?_append isHere, at?_cons_eq_some_iff] at inside
    rcases inside with ⟨level, chunks, chunk, whole⟩
    cases whole
    have smaller : sizeOf chunks < sizeOf w.chunks := by
      have bound := List.sizeOf_lt_of_mem (List.mem_of_getElem? chunk)
      rw [Chunk.nested.sizeOf_spec] at bound
      omega
    have text : inner (sheet indent (start on) before).nextSection = Chunk.renderAll chunks := by
      simp only [inner, chunk]
      rfl
    rw [text, ← begins]
    exact state.inPlace _ (some name) _ placed' isThere
  rcases exists_inPlace inner (ownOf trace) (ownOf trace on) ⟨indent, start on, []⟩ sections with
    ⟨text, written, whole⟩
  have same : w.text = text := by
    calc w.text = w.textWith inner := by
          apply Chunk.renderAll_eq_textWith
          intro i level inside found
          rw [Nat.zero_add]
          simp only [inner, found]
          rfl
      _ = w.hollow.textWith inner := (Chunk.textWith_hollow inner 0 w.chunks).symm
      _ = (sheet indent (start on) (ownOf trace on)).textWith inner := by
          rw [alike]
          exact Chunk.textWith_hollow inner 0 _
      _ = text := by
          rw [sheet, whole]
          exact String.empty_append
  rw [same]
  exact written
termination_by sizeOf w.chunks

end Drawn

/-! ### Commands -/

theorem ownOf_cons (target on : Option Name) (s : Stroke Name) (rest : Trace Name) :
    ownOf ((target, s) :: rest) on = (if target = on then [s] else []) ++ ownOf rest on := by
  by_cases own : target = on <;> simp [ownOf, own]

omit [DecidableEq Name] in
theorem levelAfterAll_append (level : Nat) (first second : List (Stroke Name)) :
    levelAfterAll level (first ++ second) =
      levelAfterAll (levelAfterAll level first) second := by
  simp [levelAfterAll]

/-- A stroke that leaves the level as it is. -/
theorem levelAfterAll_single {s : Stroke Name} (same : ∀ level, s.levelAfter level = level)
    (target on : Option Name) (level : Nat) :
    levelAfterAll level (ownOf [(target, s)] on) = level := by
  rw [ownOf_cons]
  split <;> simp [ownOf, levelAfterAll, same]

/-- A body leaves the level alone, one level deeper. -/
theorem levelAfterAll_nested {body : Trace Name} {on : Option Name}
    (balanced : ∀ level, levelAfterAll level (ownOf body on) = level) (target : Option Name)
    (level : Nat) :
    levelAfterAll level (ownOf ((target, .deeper) :: (body ++ [(target, .shallower)])) on) =
      level := by
  rw [ownOf_cons, ownOf_append, ownOf_cons, levelAfterAll_append, levelAfterAll_append, balanced]
  split <;> simp [ownOf, levelAfterAll, Stroke.levelAfter]

mutual

/-- A command leaves every level as it found it. -/
theorem levelAfterAll_trace : (c : Command Name) → (on : Option Name) → (level : Nat) →
    levelAfterAll level (ownOf c.trace on) = level
  | .line target _, on, level => levelAfterAll_single (fun _ => rfl) target on level
  | .linef target _ _, on, level => levelAfterAll_single (fun _ => rfl) target on level
  | .lines target _, on, level => levelAfterAll_single (fun _ => rfl) target on level
  | .blank target _, on, level => levelAfterAll_single (fun _ => rfl) target on level
  | .addSection target _, on, level => levelAfterAll_single (fun _ => rfl) target on level
  | .indented target body, on, level =>
    levelAfterAll_nested (levelAfterAll_traceAll body on) target level
  | .block target opening body closing, on, level => by
    have cut : (Command.block target opening body closing).trace =
        [(target, .line opening)] ++ ((target, .deeper) ::
          (Command.traceAll body ++ [(target, .shallower)]) ++ [(target, .line closing)]) := by
      simp [Command.trace]
    rw [cut, ownOf_append, ownOf_append, levelAfterAll_append, levelAfterAll_append,
      levelAfterAll_single fun _ => rfl, levelAfterAll_nested (levelAfterAll_traceAll body on),
      levelAfterAll_single fun _ => rfl]

/-- Commands leave every level as they found it. -/
theorem levelAfterAll_traceAll : (program : List (Command Name)) → (on : Option Name) →
    (level : Nat) → levelAfterAll level (ownOf (Command.traceAll program) on) = level
  | [], _, _ => rfl
  | c :: rest, on, level => by
    rw [Command.traceAll, ownOf_append, levelAfterAll_append, levelAfterAll_trace c,
      levelAfterAll_traceAll rest]

end

/-! ### The main result -/

/-- The text of the root is that of its own strokes in place. -/
theorem inPlace_text (indent : String) (program : List (Command Name))
    (legal : Scoped [none] (Command.traceAll program)) :
    InPlace indent (ownOf (Command.traceAll program)) 0 (ownOf (Command.traceAll program) none)
      (Command.execAll program (Desk.new indent)).root.text := by
  rw [← List.append_nil (Command.traceAll program)] at legal
  rcases (Drawn.new indent).performAll _ [] legal with ⟨known, start, state, -, -⟩
  rw [List.nil_append] at state
  rw [Command.execAll_eq, ← state.root_start]
  exact state.inPlace _ none [] rfl rfl

/-- A command inside a program leaves the level of every writer as it found it. -/
theorem level_exec (indent : String) {before after : Trace Name} {c : Command Name}
    (legal : Scoped [none] (before ++ c.trace ++ after)) {on : Option Name} {w : Writer}
    (found : ((Desk.new indent).performAll before).writer? on = some w) :
    ∃ w', (c.exec ((Desk.new indent).performAll before)).writer? on = some w' ∧
      w'.level = w.level := by
  rw [List.append_assoc] at legal
  rcases (Drawn.new indent).performAll before _ legal with ⟨known, start, state, legal', -⟩
  rcases state.performAll c.trace after legal' with ⟨known', start', state', -, same⟩
  have isKnown : on ∈ known := by
    apply (state.placed on).mpr
    rcases Option.bind_eq_some_iff.mp found with ⟨place, placed, -⟩
    exact ⟨place, placed⟩
  rcases state.exists_writer isKnown with ⟨v, isHere, level⟩
  cases found.symm.trans isHere
  rcases same on isKnown with ⟨isKnown', begins⟩
  rcases state'.exists_writer isKnown' with ⟨w', isHere', level'⟩
  refine ⟨w', ?_, ?_⟩
  · rw [Command.exec_eq]
    exact isHere'
  · rw [level', begins, ownOf_append, levelAfterAll_append, levelAfterAll_trace, level,
      List.nil_append]

/-- Sections render as if they had been written in place. The text of the root is that of its own
strokes with the text of every section where the section was made, so two programs that give every
writer the same strokes render alike in whatever order they write. A command leaves every level as
it found it, nothing was written exactly when the text is empty, and a destination receives as much
of the text as it takes, with its length and whether something was left out. -/
theorem sections_exact (indent : String) (program : List (Command Name))
    (legal : Scoped [none] (Command.traceAll program)) :
    (∀ text, InPlace indent (ownOf (Command.traceAll program)) 0
        (ownOf (Command.traceAll program) none) text ↔
      text = (Command.execAll program (Desk.new indent)).root.text) ∧
    (∀ other : List (Command Name), Scoped [none] (Command.traceAll other) →
      (∀ on, ownOf (Command.traceAll other) on = ownOf (Command.traceAll program) on) →
      (Command.execAll other (Desk.new indent)).root.text =
        (Command.execAll program (Desk.new indent)).root.text) ∧
    (∀ before (c : Command Name) after,
      Command.traceAll program = before ++ c.trace ++ after →
      ∀ on w, ((Desk.new indent).performAll before).writer? on = some w →
        ∃ w', (c.exec ((Desk.new indent).performAll before)).writer? on = some w' ∧
          w'.level = w.level) ∧
    (∀ w : Writer, w.isEmpty = true ↔ w.text = "") ∧
    ∀ (w : Writer) (r : Receiver),
      (w.writeTo r).receiver.received = r.received ++ r.portion (Utf8.encode w.text) ∧
      (w.writeTo r).count = (r.portion (Utf8.encode w.text)).length ∧
      ((w.writeTo r).failed = true ↔ r.portion (Utf8.encode w.text) ≠ Utf8.encode w.text) := by
  have rendered := inPlace_text indent program legal
  constructor
  · intro text
    constructor
    · intro inPlace
      exact inPlace.unique rendered
    · rintro rfl
      exact rendered
  constructor
  · intro other legal' same
    have rendered' := inPlace_text indent other legal'
    rw [funext same] at rendered'
    exact rendered'.unique rendered
  constructor
  · intro before c after split on w found
    rw [split] at legal
    exact level_exec indent legal found
  constructor
  · exact isEmpty_eq_true_iff
  · intro w r
    rw [writeTo_eq]
    exact ⟨rfl, rfl, r.failed_accept_iff _⟩

/-- A file whose imports are known only when its body is written. -/
def headedFile : List (Command String) :=
  [.line none "# generated",
    .indented none [.addSection none "imports"],
    .block none "def read():"
      [.linef none "return %s(%d)" [.text "int", .int 7],
        .line (some "imports") "import abc",
        .block (some "imports") "try:" [.line none "pass ", .addSection (some "imports") "more"] "",
        .lines (some "more") "import sys\n\nimport time\n"]
      "# end"]

/-- The text of the file, in place and as it was rendered. -/
theorem sections_exact_headedFile :
    Scoped [none] (Command.traceAll headedFile) ∧
      InPlace "  " (ownOf (Command.traceAll headedFile)) 0
        (ownOf (Command.traceAll headedFile) none)
        ("# generated\n  import abc\n  try:\n    import sys\n\n    import time\n\n" ++
          "def read():\n  return int(7)\n  pass\n# end\n") := by
  have legal : Scoped [none] (Command.traceAll headedFile) := by
    simp [Scoped, headedFile, Command.traceAll, Command.trace, Stroke.made?]
  refine ⟨legal, ((sections_exact "  " headedFile legal).1 _).mpr ?_⟩
  decide +kernel

end Writer

end ApiCompiler
