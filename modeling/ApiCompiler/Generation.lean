import ApiCompiler.Output.Sink
import ApiCompiler.Target

/-!
# Generation

Runs targets over a project and writes their files to a sink. All options are read before the
first file is written. A run that fails keeps what was written before the fault.

* `Generation.run` writes to a sink;
* `Generation.check` runs the targets without keeping anything.

What a run reports while it works are the records of its log.
-/

namespace ApiCompiler

open Text

/-- A record of the log. -/
inductive LogRecord where
  | generating (target : String) (modules : List String)
  | wroteFile (target path : String) (size : Nat)
  | generationFailed (cause : Error)
  | generationFinished
deriving DecidableEq, Repr

namespace LogRecord

/-- How urgent a record is. -/
def level : LogRecord → String
  | generating _ _ => "DEBUG"
  | wroteFile _ _ _ => "INFO"
  | generationFailed _ => "ERROR"
  | generationFinished => "INFO"

/-- The message of a record. -/
def message : LogRecord → String
  | generating _ _ => "generating"
  | wroteFile _ _ _ => "wrote file"
  | generationFailed _ => "generation failed"
  | generationFinished => "generation finished"

end LogRecord

/-- What is asked of a run: the targets, none meaning all, the options, and whether the run is
cancelled from the start. -/
structure Generation where
  targets : List String
  options : Options
  cancelled : Bool
deriving Repr

/-- The paths that each target wrote, in the order of writing. -/
abbrev Generated := OrderedMap (List String)

/-- All written paths in order. -/
def Generated.paths (g : Generated) : List String :=
  sort (g.toList.flatMap (·.2))

/-- A run so far, or up to its fault. -/
structure GenerationRun where
  sink : Sink
  log : List LogRecord
  result : Except Error Generated

namespace Generation

/-- The names of the targets of a run. -/
def targetNames (g : Generation) : List String :=
  if g.targets.isEmpty then Options.targetNames else g.targets

/-- The targets of a run with their options. -/
def resolve (g : Generation) : Except Error (List Target) := do
  g.options.checkScopes
  g.targetNames.mapM fun name => Target.ofName name g.options

/-- The files of one target on their way to a sink. -/
structure TargetRun where
  sink : Sink
  log : List LogRecord
  paths : List String
  fault : Option Error

/-- Writes files until one fails. -/
def writeFiles (cancelled : Bool) (target : String) : List OutputFile → Sink → TargetRun
  | [], sink => ⟨sink, [], [], none⟩
  | file :: rest, sink =>
    match sink.write cancelled file with
    | (sink, some e) => ⟨sink, [], [], some e⟩
    | (sink, none) =>
      let more := writeFiles cancelled target rest sink
      { more with
        log := .wroteFile target file.path file.size :: more.log
        paths := file.path :: more.paths }

/-- Runs one target. The fault of a write comes before one in the making of a later file. -/
def runTarget (g : Generation) (project : Project) (target : Target) (sink : Sink) : TargetRun :=
  let plan := target.generate project
  let written := writeFiles g.cancelled target.name plan.files sink
  { written with
    log := .generating target.name project.moduleNames :: written.log
    fault := (written.fault.or plan.fault).map (.within ("target " ++ target.name)) }

/-- Runs targets until one fails. -/
def runTargets (g : Generation) (project : Project) :
    List Target → Sink → Generated → GenerationRun
  | [], sink, done => ⟨sink, [], .ok done⟩
  | target :: rest, sink, done =>
    let now := g.runTarget project target sink
    match now.fault with
    | some e => ⟨now.sink, now.log, .error e⟩
    | none =>
      let more := g.runTargets project rest now.sink (done.insert target.name now.paths)
      { more with log := now.log ++ more.log }

/-- Runs every target and writes to a sink. -/
def run (g : Generation) (project : Project) (sink : Sink) : GenerationRun :=
  match g.resolve with
  | .error e => ⟨sink, [], .error e⟩
  | .ok targets => g.runTargets project targets sink .empty

/-- Runs every target for nothing. Options that targets cannot do without have placeholders. -/
def check (g : Generation) (project : Project) : Except Error Unit :=
  let g := { g with options := g.options.withCheckDefaults }
  (g.run project (.memory .empty)).result.map fun _ => ()

end Generation

end ApiCompiler
