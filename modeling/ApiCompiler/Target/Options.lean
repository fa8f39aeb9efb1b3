import ApiCompiler.Error
import ApiCompiler.OrderedMap
import ApiCompiler.Text.Case
import ApiCompiler.Text.Numeral

/-!
# Options

Options are pairs of texts. A key may be scoped to a target by the target's name and a point
in front of it; a scoped key takes precedence over the same key without a scope.
-/

namespace ApiCompiler

open Text

/-- Options by key. -/
abbrev Options := OrderedMap String

namespace Options

/-- The names of all targets, in order. -/
def targetNames : List String := ["discovery", "go", "python", "typescript"]

/-- Reads options of the form `key=value`; a later one replaces an earlier one. -/
def parse (pairs : List String) : Except Error Options :=
  pairs.foldlM (fun options pair =>
    match cut '=' pair with
    | some (key, value) =>
      if isBlankText key then .error (.config (.malformedOption pair))
      else .ok (options.insert (trim key) value)
    | none => .error (.config (.malformedOption pair))) .empty

/-- The entries in the order of their keys. -/
def sorted (options : Options) : List (String × String) :=
  options.entries.mergeSort fun a b => le a.1 b.1

/-- The options that apply to a target, with the scope removed from their keys. -/
def forTarget (options : Options) (target : String) : Options :=
  let plain := options.sorted.filter fun (key, _) => !key.toList.contains '.'
  let specific := options.sorted.filterMap fun (key, value) =>
    (dropStart? (target ++ ".") key).map fun key => (key, value)
  OrderedMap.ofList (plain ++ specific)

/-- Every scope is a target. -/
def checkScopes (options : Options) : Except Error Unit :=
  options.sorted.forM fun (key, _) =>
    match cut '.' key with
    | some (scope, _) =>
      if targetNames.contains scope then .ok ()
      else .error (.config (.unknownScope key scope targetNames))
    | none => .ok ()

/-- One of several keys is given, with the scope of a target or without. -/
def hasAny (options : Options) (target : String) (keys : List String) : Bool :=
  keys.any fun key => options.contains key || options.contains (target ++ "." ++ key)

/-- The options of a check: what targets cannot do without has a placeholder. -/
def withCheckDefaults (options : Options) : Options :=
  let options := if options.hasAny "python" ["module", "package"] then options
    else options.insert "python.module" "api"
  if options.hasAny "go" ["import_path"] then options
  else options.insert "go.import_path" "example.com/api"

/-- A key of a target's options: its name, and how a value that is not empty sets it. No result
means that the value does not fit. -/
structure Key (O : Type) where
  name : String
  set : String → O → Option O

namespace Key

variable {O : Type}

/-- A key for a text. -/
def text (name : String) (put : String → O → O) : Key O :=
  ⟨name, fun s o => some (put s o)⟩

/-- A key for a whole number of 64 bits. -/
def number (name : String) (put : Int → O → O) : Key O :=
  ⟨name, fun s o => (signed64? (numeral? 10) s.toList).map fun i => put i o⟩

/-- The spellings of a truth value. -/
def truth? (s : String) : Option Bool :=
  if ["on", "1", "t", "T", "true", "TRUE", "True"].contains s then some true
  else if ["0", "f", "F", "false", "FALSE", "False"].contains s then some false
  else none

/-- A key for a truth value. -/
def flag (name : String) (put : Bool → O → O) : Key O :=
  ⟨name, fun s o => (truth? s).map fun b => put b o⟩

end Key

/-- A character for the comparison of keys without regard to case. A capital I with a dot is no
other letter. -/
def folded (c : Char) : Char :=
  if c = '\u212A' then 'k'
  else if c = '\u017F' then 's'
  else if c = '\u0130' then c
  else toLower c

/-- Two keys are equal up to case. -/
def sameKey (a b : String) : Bool := a.toList.map folded == b.toList.map folded

variable {O : Type}

/-- Sets one key, or says what is wrong with it. -/
def decodeOne (keys : List (Key O)) (key value : String) (o : O) : Except String O :=
  match keys.find? fun k => sameKey k.name key with
  | none => .error s!"schema: invalid path {quote key}"
  | some k =>
    if value == "" then .ok o
    else
      match k.set value o with
      | some o => .ok o
      | none => .error s!"schema: error converting value for {quote key}"

/-- The first problem, and how many there are besides. -/
def summary : List String → String
  | [] => ""
  | [p] => p
  | [p, _] => p ++ " (and 1 other error)"
  | p :: rest => s!"{p} (and {rest.length} other errors)"

/-- Sets the keys of a target's options. -/
def decode (target : String) (keys : List (Key O)) (start : O) (options : Options) :
    Except Error O :=
  let (o, problems) := options.sorted.foldl (fun (o, problems) (key, value) =>
    match decodeOne keys key value o with
    | .ok o => (o, problems)
    | .error p => (o, problems ++ [p])) (start, ([] : List String))
  if problems.isEmpty then .ok o else .error (.config (.badOptions target (summary problems)))

end Options

end ApiCompiler
