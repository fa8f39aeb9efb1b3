import ApiCompiler.Proofs.Writer.Places

/-!
# Programs that write

A program writes through a tree of writers in any order; the bodies of indented parts and blocks
may write anywhere. What it does is a trace of strokes, each made on one writer, and every writer
has its own part of the trace. In place, a writer's text is what its own strokes write one after
the other, with the text of a section where the section was made and at the level of that moment.
-/

namespace ApiCompiler

open Text

namespace Writer

variable {Name : Type}

/-- The least thing that is done to a writer. -/
inductive Stroke (Name : Type) where
  | line (s : String)
  | lines (s : String)
  | blank (count : Nat)
  | deeper
  | shallower
  | addSection (name : Name)

namespace Stroke

/-- The section that a stroke makes. -/
def made? : Stroke Name → Option Name
  | addSection name => some name
  | _ => none

/-- Makes a stroke on a writer. -/
def draw : Stroke Name → Writer → Writer
  | line s, w => w.line s
  | lines s, w => w.lines s
  | blank count, w => w.blank count
  | deeper, w => w.deeper
  | shallower, w => w.shallower
  | addSection _, w => w.addSection

/-- The text that a stroke itself writes at a level. -/
def text (indent : String) (level : Nat) : Stroke Name → String
  | line s => lineText indent level s
  | lines s =>
    String.join ((split '\n' ((dropEnd? "\n" s).getD s)).map (lineText indent level))
  | blank count => repeated count "\n"
  | _ => ""

/-- The level behind a stroke. -/
def levelAfter (level : Nat) : Stroke Name → Nat
  | deeper => level + 1
  | shallower => level - 1
  | _ => level

end Stroke

/-- Makes strokes on one writer. -/
def drawAll (w : Writer) (strokes : List (Stroke Name)) : Writer :=
  strokes.foldl (fun w s => s.draw w) w

/-- What is done to a tree of writers: strokes, each with the writer it is made on. -/
abbrev Trace (Name : Type) := List (Option Name × Stroke Name)

/-- The strokes of a trace that are made on one writer. -/
def ownOf [DecidableEq Name] (trace : Trace Name) (on : Option Name) : List (Stroke Name) :=
  trace.filterMap fun (target, s) => if target = on then some s else none

/-- The text that strokes have in place: `own` are the strokes of every writer, and a section has
its text, at the current level, where it is made. -/
inductive InPlace (indent : String) (own : Option Name → List (Stroke Name)) :
    Nat → List (Stroke Name) → String → Prop
  | done (level : Nat) : InPlace indent own level [] ""
  | stroke {level : Nat} {s : Stroke Name} {rest : List (Stroke Name)} {text : String}
      (plain : s.made? = none) (others : InPlace indent own (s.levelAfter level) rest text) :
      InPlace indent own level (s :: rest) (s.text indent level ++ text)
  | made {level : Nat} {name : Name} {rest : List (Stroke Name)} {inner text : String}
      (inside : InPlace indent own level (own (some name)) inner)
      (others : InPlace indent own level rest text) :
      InPlace indent own level (.addSection name :: rest) (inner ++ text)

/-- A trace makes strokes on known writers only, and every section under a new name. -/
def Scoped [DecidableEq Name] : List (Option Name) → Trace Name → Prop
  | _, [] => True
  | known, (on, s) :: rest =>
    on ∈ known ∧ (∀ name, s.made? = some name → some name ∉ known) ∧
      Scoped (s.made?.toList.map some ++ known) rest

/-- What a program does. -/
inductive Command (Name : Type) where
  | line (on : Option Name) (s : String)
  | linef (on : Option Name) (format : String) (args : List Format.Argument)
  | lines (on : Option Name) (s : String)
  | blank (on : Option Name) (count : Nat)
  | addSection (on : Option Name) (name : Name)
  | indented (on : Option Name) (body : List (Command Name))
  | block (on : Option Name) (opening : String) (body : List (Command Name)) (closing : String)

namespace Command

mutual

/-- Runs a command. -/
def exec [DecidableEq Name] : Command Name → Desk Name → Desk Name
  | line on s, d => d.change on (·.line s)
  | linef on format args, d => d.change on (·.linef format args)
  | lines on s, d => d.change on (·.lines s)
  | blank on count, d => d.change on (·.blank count)
  | addSection on name, d => d.addSection on name
  | indented on body, d => (execAll body (d.change on (·.deeper))).change on (·.shallower)
  | block on opening body closing, d =>
    ((execAll body ((d.change on (·.line opening)).change on (·.deeper))).change on
      (·.shallower)).change on (·.line closing)

/-- Runs commands one after the other. -/
def execAll [DecidableEq Name] : List (Command Name) → Desk Name → Desk Name
  | [], d => d
  | c :: rest, d => execAll rest (c.exec d)

end

mutual

/-- The strokes of a command. -/
def trace : Command Name → Trace Name
  | line on s => [(on, .line s)]
  | linef on format args => [(on, .line (Text.format format args))]
  | lines on s => [(on, .lines s)]
  | blank on count => [(on, .blank count)]
  | addSection on name => [(on, .addSection name)]
  | indented on body => (on, .deeper) :: (traceAll body ++ [(on, .shallower)])
  | block on opening body closing =>
    (on, .line opening) :: (on, .deeper) ::
      (traceAll body ++ [(on, .shallower), (on, .line closing)])

/-- The strokes of several commands. -/
def traceAll : List (Command Name) → Trace Name
  | [] => []
  | c :: rest => c.trace ++ traceAll rest

end

end Command

end Writer

namespace Desk

variable {Name : Type} [DecidableEq Name]

/-- Makes a stroke on one of the writers. -/
def perform (d : Desk Name) (on : Option Name) : Writer.Stroke Name → Desk Name
  | .addSection name => d.addSection on name
  | s => d.change on s.draw

/-- Makes the strokes of a trace. -/
def performAll (d : Desk Name) (trace : Writer.Trace Name) : Desk Name :=
  trace.foldl (fun d (on, s) => d.perform on s) d

@[simp] theorem performAll_nil (d : Desk Name) : d.performAll [] = d := rfl

@[simp] theorem performAll_cons (d : Desk Name) (on : Option Name) (s : Writer.Stroke Name)
    (rest : Writer.Trace Name) :
    d.performAll ((on, s) :: rest) = (d.perform on s).performAll rest := rfl

theorem performAll_append (d : Desk Name) (first second : Writer.Trace Name) :
    d.performAll (first ++ second) = (d.performAll first).performAll second := by
  simp [performAll]

theorem change_of_place {d : Desk Name} {on : Option Name} {place : Writer.Path}
    (placed : d.place? on = some place) (change : Writer → Writer) :
    d.change on change = { d with root := d.root.modifyAt change place } := by
  rw [Desk.change, placed]

theorem place?_root (root root' : Writer) (places : List (Name × Writer.Path))
    (on : Option Name) :
    (⟨root, places⟩ : Desk Name).place? on = (⟨root', places⟩ : Desk Name).place? on := by
  cases on <;> rfl

theorem place?_change (d : Desk Name) (on other : Option Name) (change : Writer → Writer) :
    (d.change on change).place? other = d.place? other := by
  rw [Desk.change]
  split
  · exact place?_root _ _ _ _
  · rfl

end Desk

namespace Writer

variable {Name : Type}

namespace Command

variable [DecidableEq Name]

mutual

/-- A command makes its strokes. -/
theorem exec_eq : (c : Command Name) → (d : Desk Name) → c.exec d = d.performAll c.trace
  | line _ _, _ => rfl
  | linef _ _ _, _ => rfl
  | lines _ _, _ => rfl
  | blank _ _, _ => rfl
  | addSection _ _, _ => rfl
  | indented on body, d => by
    rw [exec, trace, execAll_eq body, Desk.performAll_cons, Desk.performAll_append]
    rfl
  | block on opening body closing, d => by
    rw [exec, trace, execAll_eq body, Desk.performAll_cons, Desk.performAll_cons,
      Desk.performAll_append]
    rfl

/-- Commands make their strokes one after the other. -/
theorem execAll_eq : (program : List (Command Name)) → (d : Desk Name) →
    execAll program d = d.performAll (traceAll program)
  | [], _ => rfl
  | c :: rest, d => by
    rw [execAll, traceAll, Desk.performAll_append, exec_eq c, execAll_eq rest]

end

end Command

end Writer

/-! ## The text of strokes -/

/-- The text of chunks from position `k` on, if their sections have the text that `inner` says. -/
def Chunk.textWith (inner : Nat → String) : Nat → List Chunk → String
  | _, [] => ""
  | k, .text content :: rest => content ++ textWith inner (k + 1) rest
  | k, .nested _ _ :: rest => inner k ++ textWith inner (k + 1) rest

namespace Chunk

variable (inner : Nat → String)

theorem textWith_appendTo (k : Nat) (chunks : List Chunk) (s : String) :
    textWith inner k (Writer.appendTo chunks s) = textWith inner k chunks ++ s := by
  induction chunks, s using Writer.appendTo.induct generalizing k with
  | case1 s => simp [Writer.appendTo, textWith]
  | case2 content s => simp [Writer.appendTo, textWith]
  | case3 c rest s notLast ih =>
    rw [Writer.appendTo.eq_3 s c rest notLast]
    cases c <;> simp [textWith, ih, String.append_assoc]

theorem textWith_append_nested (k : Nat) (chunks : List Chunk) (level : Nat) :
    textWith inner k (chunks ++ [.nested level []]) =
      textWith inner k chunks ++ inner (k + chunks.length) := by
  induction chunks generalizing k with
  | nil => simp [textWith]
  | cons c rest ih =>
    have position : k + 1 + rest.length = k + (rest.length + 1) := by omega
    cases c <;> simp [textWith, ih, position, String.append_assoc]

theorem textWith_hollow (k : Nat) (chunks : List Chunk) :
    textWith inner k (chunks.map hollow) = textWith inner k chunks := by
  induction chunks generalizing k with
  | nil => rfl
  | cons c rest ih => cases c <;> simp [textWith, ih]

theorem renderAll_eq_textWith (k : Nat) (chunks : List Chunk)
    (agrees : ∀ i level inside, chunks[i]? = some (.nested level inside) →
      inner (k + i) = renderAll inside) :
    renderAll chunks = textWith inner k chunks := by
  induction chunks generalizing k with
  | nil => rfl
  | cons c rest ih =>
    have others : renderAll rest = textWith inner (k + 1) rest := by
      apply ih
      intro i level inside found
      rw [Nat.add_right_comm, Nat.add_assoc]
      exact agrees (i + 1) level inside found
    cases c with
    | text content => rw [renderAll, textWith, others, render]
    | nested level inside =>
      rw [renderAll, textWith, others, render, ← agrees 0 level inside rfl, Nat.add_zero]

end Chunk

namespace Writer

/-- The text of a writer whose sections have the text that `inner` says. -/
def textWith (inner : Nat → String) (w : Writer) : String := Chunk.textWith inner 0 w.chunks

variable {Name : Type}

/-! ### One stroke -/

theorem Stroke.own_draw (s : Stroke Name) : Own s.draw := by
  cases s with
  | line s => exact own_line s
  | lines s => exact own_lines s
  | blank count => exact own_blank count
  | deeper => exact own_deeper
  | shallower => exact own_shallower
  | addSection name => exact own_addSection

theorem line_fields (w : Writer) (s : String) (inner : Nat → String) :
    (w.line s).level = w.level ∧
      (w.line s).textWith inner = w.textWith inner ++ lineText w.indent w.level s := by
  rw [line_eq]
  exact ⟨rfl, Chunk.textWith_appendTo inner 0 w.chunks _⟩

theorem foldl_line_fields (items : List String) (w : Writer) (inner : Nat → String) :
    (items.foldl line w).level = w.level ∧
      (items.foldl line w).textWith inner =
        w.textWith inner ++ String.join (items.map (lineText w.indent w.level)) := by
  induction items generalizing w with
  | nil => simp
  | cons s rest ih =>
    rcases ih (w.line s) with ⟨level, written⟩
    rcases line_fields w s inner with ⟨level', written'⟩
    rw [List.foldl_cons, level, written, level', written', (own_line s).indent]
    simp [String.append_assoc]

theorem Stroke.level_draw (s : Stroke Name) (w : Writer) :
    (s.draw w).level = s.levelAfter w.level := by
  cases s with
  | line s => exact (line_fields w s fun _ => "").1
  | lines s => exact (foldl_line_fields _ w fun _ => "").1
  | _ => rfl

/-- A stroke that makes no section writes its own text. -/
theorem Stroke.textWith_draw (inner : Nat → String) (s : Stroke Name) (plain : s.made? = none)
    (w : Writer) :
    (s.draw w).textWith inner = w.textWith inner ++ s.text w.indent w.level := by
  cases s with
  | line s => exact (line_fields w s inner).2
  | lines s => exact (foldl_line_fields _ w inner).2
  | blank count => exact Chunk.textWith_appendTo inner 0 w.chunks _
  | deeper => simp [draw, Writer.deeper, text, textWith]
  | shallower => simp [draw, Writer.shallower, text, textWith]
  | addSection name => cases plain

/-! ### The own strokes of a writer -/

theorem drawAll_append (w : Writer) (first second : List (Stroke Name)) :
    w.drawAll (first ++ second) = (w.drawAll first).drawAll second := by
  simp [drawAll]

theorem indent_drawAll (strokes : List (Stroke Name)) (w : Writer) :
    (w.drawAll strokes).indent = w.indent := by
  induction strokes generalizing w with
  | nil => rfl
  | cons s rest ih => exact (ih (s.draw w)).trans (s.own_draw.indent w)

/-- The level behind strokes. -/
def levelAfterAll (level : Nat) (strokes : List (Stroke Name)) : Nat :=
  strokes.foldl Stroke.levelAfter level

theorem level_drawAll (strokes : List (Stroke Name)) (w : Writer) :
    (w.drawAll strokes).level = levelAfterAll w.level strokes := by
  induction strokes generalizing w with
  | nil => rfl
  | cons s rest ih =>
    have others := ih (s.draw w)
    rw [s.level_draw w] at others
    exact others

/-- What strokes make of an empty writer. -/
def sheet (indent : String) (level : Nat) (strokes : List (Stroke Name)) : Writer :=
  (⟨indent, level, []⟩ : Writer).drawAll strokes

theorem sheet_concat (indent : String) (level : Nat) (strokes : List (Stroke Name))
    (s : Stroke Name) :
    sheet indent level (strokes ++ [s]) = s.draw (sheet indent level strokes) :=
  drawAll_append _ _ _

theorem level_sheet (indent : String) (level : Nat) (strokes : List (Stroke Name)) :
    (sheet indent level strokes).level = levelAfterAll level strokes :=
  level_drawAll _ _

/-- Strokes write their text in place, if the sections that they make have theirs. -/
theorem exists_inPlace (inner : Nat → String) (own : Option Name → List (Stroke Name))
    (strokes : List (Stroke Name)) (w : Writer)
    (sections : ∀ before name after, strokes = before ++ .addSection name :: after →
      InPlace w.indent own (w.drawAll before).level (own (some name))
        (inner (w.drawAll before).nextSection)) :
    ∃ text, InPlace w.indent own w.level strokes text ∧
      (w.drawAll strokes).textWith inner = w.textWith inner ++ text := by
  induction strokes generalizing w with
  | nil => exact ⟨"", .done w.level, by simp [drawAll]⟩
  | cons s rest ih =>
    have later : ∀ before name after, rest = before ++ .addSection name :: after →
        InPlace (s.draw w).indent own ((s.draw w).drawAll before).level (own (some name))
          (inner ((s.draw w).drawAll before).nextSection) := by
      intro before name after split
      rw [s.own_draw.indent]
      exact sections (s :: before) name after (by rw [split]; rfl)
    rcases ih (s.draw w) later with ⟨text, others, written⟩
    rw [s.own_draw.indent, s.level_draw] at others
    cases made : s.made? with
    | none =>
      refine ⟨s.text w.indent w.level ++ text, .stroke made others, ?_⟩
      have whole : (w.drawAll (s :: rest)).textWith inner = (s.draw w).textWith inner ++ text :=
        written
      rw [whole, s.textWith_draw inner made, String.append_assoc]
    | some name =>
      cases s with
      | addSection name =>
        have inside := sections [] name rest rfl
        refine ⟨inner w.nextSection ++ text, .made inside others, ?_⟩
        have whole : (w.drawAll (.addSection name :: rest)).textWith inner =
            w.addSection.textWith inner ++ text := written
        have here : w.addSection.textWith inner = w.textWith inner ++ inner w.nextSection := by
          have appended := Chunk.textWith_append_nested inner 0 w.chunks w.level
          rw [Nat.zero_add] at appended
          exact appended
        rw [whole, here, String.append_assoc]
      | _ => cases made

/-- The text in place is determined by the strokes. -/
theorem InPlace.unique {indent : String} {own : Option Name → List (Stroke Name)} {level : Nat}
    {strokes : List (Stroke Name)} {first second : String}
    (one : InPlace indent own level strokes first)
    (two : InPlace indent own level strokes second) : first = second := by
  induction one generalizing second with
  | done level =>
    cases two
    rfl
  | stroke plain others ih =>
    cases two with
    | stroke _ others' => rw [ih others']
    | made _ _ => cases plain
  | made inside others ihInside ih =>
    cases two with
    | stroke plain _ => cases plain
    | made inside' others' => rw [ihInside inside', ih others']

end Writer

end ApiCompiler
