import ApiCompiler.Text.Format
import ApiCompiler.Text.Split
import ApiCompiler.Text.Utf8

/-!
# Writing code line by line

A writer collects lines at an indentation. It may hold sections: places that are filled later
but stand where they were made, with the indentation of that moment. A section is addressed by
the path of positions that leads to it.
-/

namespace ApiCompiler

open Text

/-- A run of text, or a section with its own indentation. -/
inductive Chunk where
  | text (content : String)
  | nested (level : Nat) (chunks : List Chunk)
deriving Repr

namespace Chunk

mutual

/-- The text of a chunk. -/
def render : Chunk → String
  | text content => content
  | nested _ chunks => renderAll chunks

/-- The text of several chunks. -/
def renderAll : List Chunk → String
  | [] => ""
  | c :: rest => c.render ++ renderAll rest

end

mutual

/-- Nothing was written. -/
def isEmpty : Chunk → Bool
  | text content => content == ""
  | nested _ chunks => allEmpty chunks

/-- Nothing was written to any of several chunks. -/
def allEmpty : List Chunk → Bool
  | [] => true
  | c :: rest => c.isEmpty && allEmpty rest

end

end Chunk

/-- A writer: the text of one level of indentation, the current level, and what was written. -/
structure Writer where
  indent : String
  level : Nat
  chunks : List Chunk
deriving Repr

namespace Writer

/-- An empty writer. -/
def new (indent : String) : Writer := ⟨indent, 0, []⟩

/-- The text that was written. -/
def text (w : Writer) : String := Chunk.renderAll w.chunks

/-- Nothing was written, also not to a section. -/
def isEmpty (w : Writer) : Bool := Chunk.allEmpty w.chunks

/-- The width of the current indentation in bytes. -/
def indentWidth (w : Writer) : Nat := w.level * byteCount w.indent.toList

/-- Adds text to the last run of chunks, or begins a new run behind a section. -/
def appendTo : List Chunk → String → List Chunk
  | [], s => [.text s]
  | [.text content], s => [.text (content ++ s)]
  | c :: rest, s => c :: appendTo rest s

/-- Adds text as it is. -/
def append (w : Writer) (s : String) : Writer := { w with chunks := appendTo w.chunks s }

/-- The characters that a line does not end with. -/
def isTrailing (c : Char) : Bool := c == ' ' || c == '\t' || c == '\r' || c == '\n'

/-- A line without its trailing white space. -/
def stripped (s : String) : String :=
  String.ofList (s.toList.reverse.dropWhile isTrailing).reverse

/-- Writes a line at the current indentation. An empty line is not indented. -/
def line (w : Writer) (s : String) : Writer :=
  let content := stripped s
  if content == "" then w.append "\n"
  else w.append (repeated w.level w.indent ++ content ++ "\n")

/-- Writes a format with its arguments in place as one line. -/
def linef (w : Writer) (format : String) (args : List Format.Argument) : Writer :=
  w.line (Text.format format args)

/-- Writes every line of a text; a line break at its end does not begin another line. -/
def lines (w : Writer) (s : String) : Writer :=
  (split '\n' ((dropEnd? "\n" s).getD s)).foldl line w

/-- Writes empty lines. -/
def blank (w : Writer) (count : Nat) : Writer := w.append (repeated count "\n")

/-- The writer one level deeper. -/
def deeper (w : Writer) : Writer := { w with level := w.level + 1 }

/-- The writer one level less deep. -/
def shallower (w : Writer) : Writer := { w with level := w.level - 1 }

/-- Writes `inner` one level deeper. -/
def indented (w : Writer) (inner : Writer → Writer) : Writer := (inner w.deeper).shallower

/-- Writes an opening line, `inner` one level deeper, and a closing line. -/
def block (w : Writer) (opening : String) (inner : Writer → Writer) (closing : String) : Writer :=
  ((w.line opening).indented inner).line closing

/-- The path of a section from the root; the empty path is the root itself. -/
abbrev Path := List Nat

/-- Makes an empty section at the end. -/
def addSection (w : Writer) : Writer :=
  { w with chunks := w.chunks ++ [.nested w.level []] }

/-- The chunk position of the section that `addSection` makes. -/
def nextSection (w : Writer) : Nat := w.chunks.length

/-- The writer at a path. -/
def at? (w : Writer) : Path → Option Writer
  | [] => some w
  | i :: path =>
    match w.chunks[i]? with
    | some (.nested level chunks) => at? ⟨w.indent, level, chunks⟩ path
    | _ => none

/-- Changes the writer at a path. A path that leads nowhere changes nothing. -/
def modifyAt (w : Writer) (change : Writer → Writer) : Path → Writer
  | [] => change w
  | i :: path =>
    match w.chunks[i]? with
    | some (.nested level chunks) =>
      let inner := modifyAt ⟨w.indent, level, chunks⟩ change path
      { w with chunks := w.chunks.set i (.nested inner.level inner.chunks) }
    | _ => w

end Writer

/-- A destination of bytes: what it received, and how many bytes it still accepts, if that is
limited. -/
structure Receiver where
  received : List UInt8
  room : Option Nat
deriving Repr

/-- How a transfer ended: the destination behind it, how many bytes it accepted, and whether it
refused some. -/
structure Transfer where
  receiver : Receiver
  count : Nat
  failed : Bool
deriving Repr

/-- The bytes that a destination takes of some bytes. -/
def Receiver.portion (r : Receiver) (bytes : List UInt8) : List UInt8 :=
  match r.room with
  | none => bytes
  | some room => bytes.take room

/-- Sends bytes to a destination. -/
def Receiver.accept (r : Receiver) (bytes : List UInt8) : Transfer :=
  let taken := r.portion bytes
  ⟨⟨r.received ++ taken, r.room.map (· - taken.length)⟩, taken.length,
    decide (taken.length < bytes.length)⟩

namespace Chunk

mutual

/-- Sends a chunk to a destination. -/
def writeTo : Chunk → Receiver → Transfer
  | text content, r => r.accept (Utf8.encode content)
  | nested _ chunks, r => writeAllTo chunks r

/-- Sends several chunks to a destination, until one is refused. -/
def writeAllTo : List Chunk → Receiver → Transfer
  | [], r => ⟨r, 0, false⟩
  | c :: rest, r =>
    let first := c.writeTo r
    if first.failed then first
    else
      let others := writeAllTo rest first.receiver
      { others with count := first.count + others.count }

end

end Chunk

/-- Sends what was written to a destination. -/
def Writer.writeTo (w : Writer) (r : Receiver) : Transfer := Chunk.writeAllTo w.chunks r

end ApiCompiler
