import ApiCompiler.Text.Format.Argument
import ApiCompiler.Text.Split

/-!
# Format texts

Texts with directives that are replaced by arguments in order. Mistakes in a format do not
fail: they show up in the result.
-/

namespace ApiCompiler.Text.Format

/-- What is written so far, and how far the arguments are used. -/
structure Filling where
  written : String
  /-- The position of the next argument. -/
  next : Nat
  /-- Some directive stated a position. -/
  reordered : Bool

/-- A directive while its positions and measures are settled. -/
structure Settling where
  next : Nat
  reordered : Bool
  /-- Every stated position is that of an argument. -/
  sound : Bool
  /-- Complaints about a width or a precision. -/
  complaints : String

namespace Settling

/-- Goes to a stated position. -/
def goTo (s : Settling) (count : Nat) : Position → Settling
  | .unstated => s
  | .stated n =>
    if 1 ≤ n && n ≤ count then { s with next := n - 1, reordered := true }
    else { s with reordered := true, sound := false }
  | .malformed => { s with reordered := true, sound := false }

/-- The next argument as a measure, if it is a number of a moderate size. -/
def takeMeasure (s : Settling) (args : List Argument) : Option Int × Settling :=
  match args[s.next]? with
  | none => (none, s)
  | some (.int i) => (if i.natAbs ≤ 1000000 then some i else none, { s with next := s.next + 1 })
  | some (.text _) => (none, { s with next := s.next + 1 })

/-- Settles the width. A negative width pads on the right. -/
def width (s : Settling) (args : List Argument) (d : Directive) :
    Flags × Option Nat × Settling :=
  let s := s.goTo args.length d.widthPosition
  match d.width with
  | .absent => (d.flags, none, s)
  | .number n => (d.flags, some n, { s with sound := s.sound && !d.widthPosition.isStated })
  | .star =>
    match s.takeMeasure args with
    | (some i, s) =>
      if i < 0 then ({ d.flags with minus := true, zero := false }, some i.natAbs, s)
      else (d.flags, some i.natAbs, s)
    | (none, s) => (d.flags, none, { s with complaints := s.complaints ++ "%!(BADWIDTH)" })

/-- Settles the precision. A negative precision is none. -/
def precision (s : Settling) (args : List Argument) (d : Directive) : Option Nat × Settling :=
  if d.hasPrecision then
    let before := Directive.remaining d.widthPosition d.width
    let s := { s with sound := s.sound && !before.isStated }
    let s := s.goTo args.length d.precisionPosition
    match d.precision with
    | .absent => (some 0, s)
    | .number n => (some n, s)
    | .star =>
      match s.takeMeasure args with
      | (some i, s) =>
        if i < 0 then (none, { s with complaints := s.complaints ++ "%!(BADPREC)" })
        else (some i.natAbs, s)
      | (none, s) => (none, { s with complaints := s.complaints ++ "%!(BADPREC)" })
  else (none, s)

end Settling

namespace Filling

/-- The flags under a verb: two verbs read them in their own way. -/
def styleFor (flags : Flags) (verb : Char) (width precision : Option Nat) : Style :=
  if verb = 'v' || verb = 'w' then
    ⟨{ flags with sharp := false, plus := false }, flags.sharp, width, precision⟩
  else ⟨flags, false, width, precision⟩

/-- Writes what stands for a directive. -/
def fill (f : Filling) (args : List Argument) (d : Directive) : Filling :=
  let (flags, width, s) :=
    Settling.width ⟨f.next, f.reordered, true, ""⟩ args d
  let (precision, s) := s.precision args d
  let s := s.goTo args.length d.verbPosition
  let f : Filling := ⟨f.written ++ s.complaints, s.next, s.reordered⟩
  match d.verb with
  | none => { f with written := f.written ++ "%!(NOVERB)" }
  | some '%' => { f with written := f.written ++ "%" }
  | some verb =>
    let fault := fun (what : String) => "%!" ++ String.singleton verb ++ "(" ++ what ++ ")"
    if !s.sound then { f with written := f.written ++ fault "BADINDEX" }
    else
      match args[f.next]? with
      | none => { f with written := f.written ++ fault "MISSING" }
      | some a =>
        { f with
          written := f.written ++ a.under (styleFor flags verb width precision) verb
          next := f.next + 1 }

/-- Writes what stands for a piece of a format. -/
def step (args : List Argument) (f : Filling) : Piece → Filling
  | .literal c => { f with written := f.written.push c }
  | .directive d => f.fill args d

/-- Lists the arguments that no directive used, unless positions were stated. -/
def finish (f : Filling) (args : List Argument) : String :=
  let extra := args.drop f.next
  if f.reordered || extra.isEmpty then f.written
  else f.written ++ "%!(EXTRA " ++ joinWith ", " (extra.map fun a => a.described .plain) ++ ")"

end Filling

end ApiCompiler.Text.Format

namespace ApiCompiler.Text

/-- A format with its arguments in place. -/
def format (s : String) (args : List Format.Argument) : String :=
  ((Format.Piece.read s).foldl (Format.Filling.step args) ⟨"", 0, false⟩).finish args

end ApiCompiler.Text
