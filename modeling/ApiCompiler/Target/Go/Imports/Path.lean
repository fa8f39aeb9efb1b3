import ApiCompiler.Target.Go.DocComment
import ApiCompiler.Target.Go.Token.Literal
import ApiCompiler.Target.Go.Tree
import ApiCompiler.Text.Quoted
import ApiCompiler.Text.Utf8

/-!
# Import paths

An import names a path by a literal, which may be a raw text or hold escapes. Imports are put in
order by the bytes that the literal stands for. A path of usual characters is written in double
quotes, any other literal stays as it is.
-/

namespace ApiCompiler.Go

open Text

/-- A sequence of bytes. -/
abbrev Bytes := List UInt8

/-- The bytes of a text. -/
def bytesOf (s : String) : Bytes := s.toUTF8.toList

/-- The number that digits of a base stand for. -/
def codeOf (base : Nat) (digits : List Char) : Nat :=
  digits.foldl (fun n c => n * base + digitValue c) 0

/-- The control character of an escape of one letter; other characters stand for themselves. -/
def controlOf (c : Char) : Char :=
  ([('a', '\x07'), ('b', '\x08'), ('f', '\x0c'), ('n', '\n'), ('r', '\r'), ('t', '\t'),
    ('v', '\x0b')].lookup c).getD c

/-- The bytes of a unit of a quoted text, which is a character or an escape. -/
def unitBytes : List Char → Bytes
  | '\\' :: c :: digits =>
    if c == 'x' then [(codeOf 16 digits).toUInt8]
    else if c == 'u' || c == 'U' then bytesOf (Char.ofNat (codeOf 16 digits)).toString
    else if isDecimalDigit c then [(codeOf 8 (c :: digits)).toUInt8]
    else bytesOf (controlOf c).toString
  | unit => bytesOf (String.ofList unit)

/-- The bytes that the literal of a text stands for. -/
def literalBytes (literal : String) : Bytes :=
  match literal.toList with
  | '"' :: rest =>
    match cutQuoted '"' (rest.length + 1) rest with
    | some (units, _) => units.flatMap unitBytes
    | none => []
  | _ :: rest => bytesOf (String.ofList rest.dropLast)
  | [] => []

/-- The literal of an import path as it is written: in double quotes if all its characters are
usual in paths. -/
def writtenPath (literal : String) : String :=
  let path := Utf8.decode ((literalBytes literal).map UInt8.toNat)
  if isImportPath path then quote path else literal

/-- The first part of a path. -/
def firstPart (path : Bytes) : Bytes := path.takeWhile (· != '/'.toNat.toUInt8)

/-- The place of an import path: first those without a point in their first part, then the
others, and last those of one old platform. -/
def importGroup (path : Bytes) : Nat :=
  if (bytesOf "appengine").isPrefixOf path then 2
  else if (firstPart path).contains '.'.toNat.toUInt8 then 1
  else 0

namespace Spec

/-- The path of an import. -/
def path (s : Spec) : Bytes :=
  match s.form with
  | .imported _ ⟨_, _, .literal _ text⟩ _ => literalBytes text
  | _ => []

/-- The name that an import has in its file; empty if it has none of its own. -/
def ownName (s : Spec) : String :=
  match s.form with
  | .imported (some n) _ _ => n.text
  | _ => ""

/-- Where the literal of an import stands. -/
def pathStart (s : Spec) : Nat :=
  match s.form with
  | .imported _ path _ => path.start
  | _ => s.start

/-- The text of the remark on an import. -/
def remarkText (s : Spec) : String := DocComment.plainText (s.remark.getD [])

/-- The order of imports by path, by name, and by remark. -/
def comesBefore (a b : Spec) : Bool :=
  if a.path != b.path then (compare a.path b.path).isLE
  else if a.ownName != b.ownName then le a.ownName b.ownName
  else le a.remarkText b.remarkText

/-- The order of imports by group, and then by path, by name, and by remark. -/
def comesBeforeInGroups (a b : Spec) : Bool :=
  if importGroup a.path != importGroup b.path then importGroup a.path < importGroup b.path
  else comesBefore a b

/-- The next import repeats this one, and nothing is lost without this one. -/
def isRepeatedBy (a b : Spec) : Bool :=
  a.path == b.path && a.ownName == b.ownName && a.remark.isNone

/-- An import at a place. -/
def movedTo (s : Spec) (start stop : Nat) : Spec :=
  match s.form with
  | .imported ownName path _ =>
    { s with
      start, stop
      form := .imported (ownName.map fun n => { n with start }) { path with start } (some stop) }
  | _ => s

/-- An import of which only the literal is at another place. -/
def literalMovedTo (s : Spec) (start : Nat) : Spec :=
  match s.form with
  | .imported ownName path ending =>
    { s with
      start := (ownName.map (·.start)).getD start
      form := .imported ownName { path with start } ending }
  | _ => s

end Spec

end ApiCompiler.Go
