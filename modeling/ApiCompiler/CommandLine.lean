import ApiCompiler.Command

/-!
# The command line

The requests that the words of a command line make.

* `gen FILE... --target NAME... (--out DIR | --stdout) [--opt KEY=VALUE]... [--watch]`
* `check FILE... [--target NAME]... [--opt KEY=VALUE]...`
-/

namespace ApiCompiler

open Text

/-- What a command line asks for. -/
inductive Request where
  | generate (c : GenerateCommand)
  | check (c : CheckCommand)
deriving Repr

namespace CommandLine

/-- The words of a command, sorted by their meaning. -/
structure Words where
  files : List String
  targets : List String
  output : String
  options : List String
  toStdout : Bool
  watch : Bool
  verbose : Bool
deriving Repr

/-- No words. -/
def Words.none : Words := ⟨[], [], "", [], false, false, false⟩

/-- A switch, by its long or its short name. -/
def switch? (word : String) : Option (Words → Words) :=
  match word with
  | "--stdout" => some fun ws => { ws with toStdout := true }
  | "--watch" | "-w" => some fun ws => { ws with watch := true }
  | "--verbose" | "-v" => some fun ws => { ws with verbose := true }
  | _ => Option.none

/-- A flag with a value, by its long or its short name. Several targets may share one value. -/
def flag? (word : String) : Option (String → Words → Words) :=
  match word with
  | "--target" | "-t" => some fun v ws => { ws with targets := ws.targets ++ split ',' v }
  | "--out" | "-o" => some fun v ws => { ws with output := v }
  | "--opt" | "-O" => some fun v ws => { ws with options := ws.options ++ [v] }
  | _ => Option.none

/-- A word that is neither a switch nor a flag of its own: a file, or a flag joined to its value
by an equals sign. -/
def other (word : String) (ws : Words) : Except Error Words :=
  if !hasStart "-" word then .ok { ws with files := ws.files ++ [word] }
  else
    match cut '=' word with
    | some (name, value) =>
      match flag? name with
      | some set => .ok (set value ws)
      | Option.none => .error (.usage ("unknown flag " ++ name))
    | Option.none => .error (.usage ("unknown flag " ++ word))

/-- Sorts the words behind the name of a command. -/
def sort : List String → Words → Except Error Words
  | [], ws => .ok ws
  | [word], ws =>
    match switch? word with
    | some set => .ok (set ws)
    | Option.none =>
      if (flag? word).isSome then .error (.usage (word ++ ": missing value")) else other word ws
  | word :: next :: rest, ws =>
    match switch? word with
    | some set => sort (next :: rest) (set ws)
    | Option.none =>
      match flag? word with
      | some set => sort rest (set next ws)
      | Option.none => do
        let ws ← other word ws
        sort (next :: rest) ws

/-- The request of a command line, and whether it asks for the whole log. -/
def parse (words : List String) : Except Error (Request × Bool) := do
  match words with
  | "gen" :: rest =>
    let ws ← sort rest .none
    if ws.files.isEmpty then throw (.usage "expected \"<files> ...\"")
    if ws.targets.isEmpty then throw (.usage "missing flags: --target=TARGET,...")
    return (.generate ⟨ws.files, ws.targets, ws.output, ws.toStdout, ws.options, ws.watch⟩,
      ws.verbose)
  | "check" :: rest =>
    let ws ← sort rest .none
    if ws.files.isEmpty then throw (.usage "expected \"<files> ...\"")
    return (.check ⟨ws.files, ws.targets, ws.options⟩, ws.verbose)
  | _ => throw (.usage "expected one of \"gen\", \"check\"")

end CommandLine

namespace LogRecord

/-- A record as a line of text. -/
def line (r : LogRecord) : String :=
  let details := match r with
    | generating target modules =>
      " target=" ++ target ++ " modules=[" ++ joinWith " " modules ++ "]"
    | wroteFile target path size => s!" target={target} path={path} bytes={size}"
    | generationFailed cause => " error=" ++ quote cause.message
    | generationFinished => ""
  "level=" ++ r.level ++ " msg=" ++ quote r.message ++ details

end LogRecord

end ApiCompiler
