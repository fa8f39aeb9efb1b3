import ApiCompiler.Generation
import ApiCompiler.Project.Load

/-!
# Commands

What the command line does, as functions of the disk: generate files below a directory or onto
the standard output, and check definitions.
-/

namespace ApiCompiler

open Text

/-- A request to generate from definition files. An empty output directory means none. -/
structure GenerateCommand where
  files : List String
  targets : List String
  output : String
  toStdout : Bool
  options : List String
  watch : Bool
deriving Repr

/-- A request to check definition files. -/
structure CheckCommand where
  files : List String
  targets : List String
  options : List String
deriving Repr

/-- What a command leaves behind: the disk, its standard output, its log, and a fault. -/
structure CommandRun where
  disk : Disk
  stdout : String
  log : List LogRecord
  fault : Option Error

/-- Generates from definition files into a directory of the disk they are on. -/
def Generation.intoDirectory (g : Generation) (disk : Disk) (files : List String)
    (output : String) : GenerationRun :=
  let sink := Sink.directory (.new output) disk
  match Project.loadSome disk files with
  | .error e => ⟨sink, [], .error e⟩
  | .ok project =>
    if output == "" then ⟨sink, [], .error (.config .noDestination)⟩ else g.run project sink

/-- The disk behind a sink, if there is one. -/
def Sink.diskOr (other : Disk) : Sink → Disk
  | .directory _ disk => disk
  | _ => other

/-- The text behind a sink, if there is one. -/
def Sink.text : Sink → String
  | .stream s => s.received
  | _ => ""

/-- The fault of a run. -/
def GenerationRun.fault (r : GenerationRun) : Option Error :=
  match r.result with
  | .error e => some e
  | .ok _ => none

namespace GenerateCommand

/-- The requests that contradict themselves. -/
def conflict (c : GenerateCommand) : Option Error :=
  if c.toStdout && c.output != "" then
    some (.usage "--out and --stdout are mutually exclusive")
  else if !c.toStdout && c.output == "" then
    some (.usage "one of --out or --stdout is required")
  else if c.toStdout && c.watch then
    some (.usage "--watch cannot be used with --stdout")
  else none

/-- What begins a comment in the language of a target. -/
def indicator (target : String) : String :=
  if ["typescript", "go", "discovery"].contains target then "//" else "#"

/-- Generates the targets one by one onto one stream, until one fails. -/
def streamTargets (disk : Disk) (files : List String) (options : Options) :
    List String → CommandRun
  | [] => ⟨disk, "", [], none⟩
  | target :: rest =>
    match Project.loadSome disk files with
    | .error e => ⟨disk, "", [], some e⟩
    | .ok project =>
      let g : Generation := ⟨[target], options, false⟩
      let r := g.run project (.stream (.new (indicator target) none))
      match r.fault with
      | some e => ⟨disk, r.sink.text, r.log, some e⟩
      | none =>
        let more := streamTargets disk files options rest
        { more with stdout := r.sink.text ++ more.stdout, log := r.log ++ more.log }

/-- Carries out the request. -/
def run (c : GenerateCommand) (disk : Disk) : CommandRun :=
  match Options.parse c.options, c.conflict with
  | .error e, _ => ⟨disk, "", [], some e⟩
  | .ok _, some e => ⟨disk, "", [], some e⟩
  | .ok options, none =>
    if c.toStdout then streamTargets disk c.files options c.targets
    else
      let g : Generation := ⟨c.targets, options, false⟩
      let r := g.intoDirectory disk c.files c.output
      ⟨r.sink.diskOr disk, "", r.log, r.fault⟩

end GenerateCommand

namespace CheckCommand

/-- The line that counts what a project declares. -/
def summary (project : Project) : String :=
  let modules := project.moduleList.map (·.2)
  let types := modules.foldl (fun n m => n + (OrderedMap.entriesOf m.types).length) 0
  let endpoints := modules.foldl (fun n m => n + (OrderedMap.entriesOf m.endpoints).length) 0
  s!"✓ {project.size} modules, {types} types, {endpoints} endpoints\n"

/-- Carries out the request. -/
def run (c : CheckCommand) (disk : Disk) : CommandRun :=
  match Options.parse c.options with
  | .error e => ⟨disk, "", [], some e⟩
  | .ok options =>
    match Project.loadSome disk c.files with
    | .error e => ⟨disk, "", [], some e⟩
    | .ok project =>
      let g : Generation := ⟨c.targets, options, false⟩
      match g.check project with
      | .error e => ⟨disk, summary project, [], some e⟩
      | .ok () => ⟨disk, summary project ++ "✓ All types resolvable\n", [], none⟩

end CheckCommand

end ApiCompiler
