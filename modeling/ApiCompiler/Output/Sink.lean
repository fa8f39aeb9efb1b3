import ApiCompiler.OrderedMap
import ApiCompiler.Output.Directory
import ApiCompiler.Output.PathRule
import ApiCompiler.Target.Output
import ApiCompiler.Text.Split

/-!
# Sinks

Where generated files go: memory, which keeps the last content of every path, a stream, or a
directory on the disk. A stream takes the files one after the other, each behind a line that names
it; it may accept only so many bytes, and what it accepted before it failed stays.
-/

namespace ApiCompiler

open Text

/-! ## Files in memory -/

/-- The files that were written, by path. -/
structure Memory where
  files : OrderedMap String
deriving Repr

namespace Memory

/-- Nothing was written. -/
def empty : Memory := ⟨.empty⟩

/-- Writes a file. -/
def write (m : Memory) (cancelled : Bool) (file : OutputFile) : Except Error Memory := do
  OutputPath.permit cancelled file.path
  return ⟨m.files.insert file.path file.content⟩

/-- The written paths in order. -/
def paths (m : Memory) : List String := Text.sort m.files.keys

/-- The content of a file, if it was written. -/
def get? (m : Memory) (path : String) : Option String := m.files.get? path

end Memory

/-! ## Files one after the other -/

/-- What a destination that accepts a limited number of bytes and then fails took of a text. -/
structure Delivery where
  received : String
  byteCount : Nat
  failed : Bool

/-- Sends a text to a destination with a limit, or without one. -/
def Delivery.send (s : String) (limit : Option Nat) : Delivery :=
  let size := Text.byteCount s.toList
  match limit with
  | none => ⟨s, size, false⟩
  | some limit =>
    if size ≤ limit then ⟨s, size, false⟩
    else ⟨String.ofList (firstBytes limit s.toList), limit, true⟩

/-- A stream: what begins the line that names a file, how many bytes it still accepts, if that
is limited, and what it received. -/
structure Stream where
  indicator : String
  capacity : Option Nat
  received : String
deriving Repr

namespace Stream

/-- A stream that received nothing. -/
def new (indicator : String) (capacity : Option Nat) : Stream := ⟨indicator, capacity, ""⟩

/-- Sends a text, and says whether all of it was accepted. -/
def send (s : Stream) (text : String) : Stream × Bool :=
  let delivery := Delivery.send text s.capacity
  ({ s with
      capacity := s.capacity.map (· - delivery.byteCount)
      received := s.received ++ delivery.received }, !delivery.failed)

/-- The line that names a file. -/
def heading (s : Stream) (path : String) : String := "\n" ++ s.indicator ++ " " ++ path ++ "\n"

/-- Writes a file. -/
def write (s : Stream) (cancelled : Bool) (file : OutputFile) : Stream × Option Error :=
  match OutputPath.permit cancelled file.path with
  | .error e => (s, some e)
  | .ok () =>
    let (s, headed) := s.send (s.heading file.path)
    if !headed then (s, some .streamFull)
    else
      let (s, complete) := s.send file.content
      (s, if complete then none else some .streamFull)

end Stream

/-! ## All sinks -/

/-- A destination of files, with all that it holds. -/
inductive Sink where
  | memory (files : Memory)
  | stream (s : Stream)
  | directory (d : Directory) (disk : Disk)
deriving Repr

namespace Sink

/-- Writes a file. What the sink holds afterwards is given also for a write that failed. -/
def write (cancelled : Bool) (file : OutputFile) : Sink → Sink × Option Error
  | memory files =>
    match files.write cancelled file with
    | .ok files => (memory files, none)
    | .error e => (memory files, some e)
  | stream s =>
    let (s, fault) := s.write cancelled file
    (stream s, fault)
  | directory d disk =>
    let (disk, fault) := d.write disk cancelled file
    (directory d disk, fault)

end Sink

end ApiCompiler
