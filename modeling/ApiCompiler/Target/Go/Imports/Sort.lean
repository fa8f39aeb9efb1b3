import ApiCompiler.Target.Go.Imports.Path

/-!
# Sorting imports

Imports on successive lines form a run, and every run is sorted by itself. Comments move together
with the import that they belong to. An import that the next one repeats is dropped, and its line
is joined to the next. There are two ways to put the sorted imports in place: close together,
behind each other on the line of the first one, or each at a place where an import stood before.
-/

namespace ApiCompiler.Go

/-- What sorting changes apart from the imports: the comments and the lines of the file. -/
structure Surroundings where
  comments : List Comments
  lines : LineTable

namespace Comments

/-- Comments that all begin at one place. -/
def movedTo (g : Comments) (start : Nat) : Comments := g.map fun c => { c with start }

end Comments

namespace Imports

/-- A group of comments that belongs to one of the imports of a run, and whether it stands in
front of it. -/
structure Attached where
  comments : Comments
  owner : Nat
  isInFront : Bool

/-- An import with its index in the run before it was sorted. -/
abbrev Indexed := Spec × Nat

/-- An import in its new place, with its former index and the places of the comments in front of
it and behind it. -/
structure Placed where
  spec : Spec
  owner : Nat
  inFront : Nat
  behind : Nat

/-- Imports in runs; an empty line ends a run. -/
def runs (lines : LineTable) (specs : List Spec) : List (List Spec) :=
  specs.splitBy fun s t => lines.line t.start ≤ 1 + lines.line s.stop

/-- The index of the last import up to which all imports behind one begin at or before a place. -/
def ownerFrom (starts : List Nat) (index place : Nat) : Nat :=
  index + ((starts.drop (index + 1)).takeWhile (· ≤ place)).length

/-- Sorted imports without those that the next one repeats, and the lines without the breaks
behind those. -/
def withoutRepeated (lines : LineTable) : List Indexed → List Indexed × LineTable
  | [] => ([], lines)
  | [s] => ([s], lines)
  | s :: t :: rest =>
    if s.1.isRepeatedBy t.1 then
      withoutRepeated (lines.joined (lines.line s.1.start)) (t :: rest)
    else
      let (others, lines) := withoutRepeated lines (t :: rest)
      (s :: others, lines)

/-- Sorted imports without repetitions, and the lines. -/
def sorted (order : Spec → Spec → Bool) (lines : LineTable) (specs : List Spec) :
    List Indexed × LineTable :=
  withoutRepeated lines (specs.zipIdx.mergeSort fun a b => order a.1 b.1)

/-- Comments next to the imports that they belong to, in order. The comments of an import that was
dropped stay in place. -/
def movedComments (attached : List Attached) (placed : List Placed) : List Comments :=
  let moved := attached.map fun a =>
    match placed.find? (·.owner == a.owner) with
    | some p => a.comments.movedTo (if a.isInFront then p.inFront else p.behind)
    | none => a.comments
  moved.mergeSort fun g h => g.start ≤ h.start

namespace Close

/-- Every comment belongs to the import in front of it. -/
def attach (starts : List Nat) : Nat → List Comments → List Attached
  | _, [] => []
  | index, g :: rest =>
    let owner := ownerFrom starts index g.start
    ⟨g, owner, false⟩ :: attach starts owner rest

/-- The offset behind the comments of an import, if they begin at one place. -/
def stopBehind (attached : List Attached) (owner place : Nat) : Nat :=
  match (attached.filter (·.owner == owner)).getLast? with
  | some a => ((a.comments.movedTo place).getLast?.map (·.stop)).getD place
  | none => place

/-- Imports behind each other, with their comments between them. -/
def place (attached : List Attached) (start stop : Nat) : List Indexed → List Placed
  | [] => []
  | (s, owner) :: rest =>
    let next := stopBehind attached owner stop
    ⟨s.movedTo start stop, owner, stop, stop⟩ :: place attached next next rest

/-- The lines of a text, where those from one line up to a place are one line. -/
def linesJoinedTo (first : Nat) (lines : LineTable) (place : Nat) : LineTable :=
  lines.joinedMany first (lines.line place - first)

/-- A run of imports in order, behind each other on one line. -/
def sortRun (run : List Spec) : StateM Surroundings (List Spec) := do
  let s ← get
  match run, run.getLast? with
  | first :: _ :: _, some last =>
    let lastLine := s.lines.line last.stop
    let before := s.comments.takeWhile fun g => g.start < first.start
    let rest := s.comments.drop before.length
    let own := rest.takeWhile fun g => s.lines.line g.stop ≤ lastLine
    let attached := attach (run.map (·.start)) 0 own
    let (specs, lines) := sorted Spec.comesBeforeInGroups s.lines run
    let placed := place attached first.start first.stop specs
    let starts := placed.map (·.spec.start)
    let firstLine := lines.line first.start
    set (⟨before ++ movedComments attached placed ++ rest.drop own.length,
      starts.foldl (linesJoinedTo firstLine) lines⟩ : Surroundings)
    return placed.map (·.spec)
  | _, _ => return run

/-- Joins the line of the closing parenthesis with the one above, if it does not follow the last
import. -/
def closeUp (specs : List Spec) (closing : Option Nat) : StateM Surroundings Unit :=
  modify fun s =>
    let last := s.lines.lineOf (specs.getLast?.map (·.start))
    let line := s.lines.lineOf closing
    if 0 < last && last + 1 < line then { s with lines := s.lines.joined (line - 1) } else s

end Close

namespace Spread

/-- A comment belongs to the import on its line. One on the line behind an import stands in front
of the next import. -/
def attach (lines : LineTable) (starts : List Nat) : Nat → List Comments → List Attached
  | _, [] => []
  | index, g :: rest =>
    let owner := ownerFrom starts index g.start
    let start := starts.getD owner 0
    if owner == 0 && g.start < start then ⟨g, owner, true⟩ :: attach lines starts owner rest
    else if owner + 1 < starts.length && lines.line start + 1 == lines.line g.start then
      ⟨g, owner + 1, true⟩ :: attach lines starts (owner + 1) rest
    else ⟨g, owner, false⟩ :: attach lines starts owner rest

/-- Imports at the places where imports stood before. -/
def place (run : List Spec) (specs : List Indexed) : List Placed :=
  (run.zip specs).map fun (former, s, owner) =>
    ⟨s.movedTo former.start former.stop, owner, former.start - 1, former.stop⟩

/-- A run of imports in order, each on a line on which an import stood before. -/
def sortRun (run : List Spec) : StateM Surroundings (List Spec) := do
  let s ← get
  match run, run.getLast? with
  | first :: _ :: _, some last =>
    let start := s.lines.lineStart (s.lines.line first.start)
    let stop := (s.lines.lineStart? (s.lines.line last.stop + 1)).getD last.stop
    let before := s.comments.takeWhile fun g => g.start < start
    let rest := s.comments.drop before.length
    let own := rest.takeWhile fun g => g.stop < stop
    let attached := attach s.lines (run.map (·.start)) 0 own
    let (specs, lines) := sorted Spec.comesBefore s.lines run
    let placed := place run specs
    set (⟨before ++ movedComments attached placed ++ rest.drop own.length, lines⟩ : Surroundings)
    return placed.map (·.spec)
  | _, _ => return run

/-- Joins the lines between the last import and the closing parenthesis. -/
def closeUp (specs : List Spec) (closing : Option Nat) : StateM Surroundings Unit :=
  modify fun s =>
    let last := s.lines.lineOf (specs.getLast?.map (·.start))
    let line := s.lines.lineOf closing
    if 0 < last && last + 1 < line then
      { s with lines := s.lines.joinedMany (last + 1) (line - last - 1) }
    else s

end Spread

/-- A declaration of imports in parentheses, with its runs sorted. -/
def sortGroup (sortRun : List Spec → StateM Surroundings (List Spec))
    (closeUp : List Spec → Option Nat → StateM Surroundings Unit) (g : Group) :
    StateM Surroundings Group := do
  if g.opening.isNone then return g
  let specs := ((← (runs (← get).lines g.specs).mapM sortRun)).flatten
  closeUp specs g.closing
  return { g with specs }

end Imports

end ApiCompiler.Go
