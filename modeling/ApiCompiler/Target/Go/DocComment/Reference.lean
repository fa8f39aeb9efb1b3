import ApiCompiler.Target.Go.DocComment.Block
import ApiCompiler.Text.Punctuation

/-!
# References to packages

A text in brackets refers to a package, or to a name of a package, if the package is known. It is
known by a path of several parts, or as a package of the standard library. Nothing is known of
the names of the package that the text belongs to.
-/

namespace ApiCompiler.Go.DocComment

open Text

/-- The packages of the standard library with a path of one part. -/
def standardPackages : List String :=
  ["bufio", "bytes", "cmp", "context", "crypto", "embed", "encoding", "errors", "expvar", "flag",
   "fmt", "hash", "html", "image", "io", "iter", "log", "maps", "math", "mime", "net", "os",
   "path", "plugin", "reflect", "regexp", "runtime", "slices", "sort", "strconv", "strings",
   "structs", "sync", "syscall", "testing", "time", "unicode", "unique", "unsafe", "weak"]

/-- A letter or a digit of ASCII. -/
def isPlainWordChar (c : Char) : Bool :=
  ('a' ≤ c && c ≤ 'z') || ('A' ≤ c && c ≤ 'Z') || ('0' ≤ c && c ≤ '9')

/-- The number of the first characters that form a word: letters, underscores and, but for the
first, digits. -/
def wordLength : List Char → Nat
  | [] => 0
  | c :: rest =>
    if c == '_' || isLetter c then
      1 + (rest.takeWhile fun c => c == '_' || isLetter c || ('0' ≤ c && c ≤ '9')).length
    else 0

/-- A word that begins with a capital. -/
def isExportedName (cs : List Char) : Bool :=
  wordLength cs == cs.length && cs.head?.any isUpper

/-- A part of an import path. -/
def isPathPart (cs : List Char) : Bool :=
  !cs.isEmpty && cs.head? != some '.' && cs.getLast? != some '.' &&
    cs.all fun c => isPlainWordChar c || ['-', '.', '~', '_', '+'].contains c

/-- A package that is known. -/
def isKnownPackage (cs : List Char) : Bool :=
  if cs.contains '/' then cs.head? != some '-' && (splitAt '/' cs).all isPathPart
  else standardPackages.contains (String.ofList cs)

/-- What stands before the last point, if a word with a capital follows it; without a point the
whole is the word. -/
def beforeName? (cs : List Char) : Option (List Char) :=
  match cutLastAt '.' cs with
  | some (before, name) => if isExportedName name then some before else none
  | none => if isExportedName cs then some [] else none

/-- The package that a text in brackets names. -/
def packageOf (cs : List Char) : List Char :=
  let cs := if cs.head? == some '*' then cs.tail else cs
  match beforeName? cs with
  | some before => (beforeName? before).getD before
  | none => cs

/-- What stands directly before or behind the brackets of a reference. -/
def isBoundary (c : Char) : Bool := isPunctuation c || isIndent c || c == '\n'

/-- A text in brackets, between two characters, is a reference. -/
def isReference (before : Option Char) (cs : List Char) (after : Option Char) : Bool :=
  before.all isBoundary && after.all isBoundary && isKnownPackage (packageOf cs)

end ApiCompiler.Go.DocComment
