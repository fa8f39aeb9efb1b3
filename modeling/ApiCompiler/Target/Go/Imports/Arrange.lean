import ApiCompiler.Target.Go.Imports.Sort

/-!
# One declaration of imports

The import declarations of a file become one, and their imports are sorted: first those of the
standard library, then those of other places, and last those of one old platform.

Groups of imports have an empty line between them. It is put into the printed text, in front of
the line of the first import of a group.
-/

namespace ApiCompiler.Go.Imports

/-- The declaration of imports that a declaration is. -/
def group? : TopLevel → Option Group
  | .group g => if g.keyword == "import" then some g else none
  | .function _ => none

/-- A declaration that can be merged with others. -/
def isMergeable (g : Group) : Bool := !g.specs.any fun s => s.path == bytesOf "C"

/-- The declaration of imports that a declaration is, if it can be merged with others. -/
def mergeable? (d : TopLevel) : Option Group := (group? d).filter isMergeable

/-- A declaration with the imports of another behind its own. -/
def merge (g other : Group) : Group :=
  { g with
    opening := some g.start
    specs := g.specs ++ other.specs.map (·.literalMovedTo g.start) }

/-- Declarations in which those of imports are one, where they can be merged. -/
def merged : List TopLevel → List TopLevel
  | [] => []
  | d :: rest =>
    match mergeable? d with
    | none => d :: merged rest
    | some g =>
      .group ((rest.filterMap mergeable?).foldl merge g) ::
        rest.filter fun d => (mergeable? d).isNone

/-- Declarations with sorted imports. A declaration without imports is dropped, and then the next
one stays as it is. -/
def sortEach : List TopLevel → StateM Surroundings (List TopLevel)
  | [] => return []
  | d :: rest => do
    match group? d with
    | none => return d :: rest
    | some g =>
      if g.specs.isEmpty then
        match rest with
        | [] => return []
        | next :: others => return next :: (← sortEach others)
      else
        let g ← sortGroup Close.sortRun Close.closeUp g
        return .group g :: (← sortEach rest)

/-- A file with one declaration of imports. -/
def arrange (f : File) : File :=
  let (declarations, s) := (sortEach (merged f.declarations)).run ⟨f.comments, f.lines⟩
  { f with declarations, comments := s.comments, lines := s.lines }

/-- A file with the imports of every declaration in order, each on a line of an import. -/
def tidy (f : File) : File :=
  let sortAll := f.declarations.mapM fun d =>
    match group? d with
    | some g => TopLevel.group <$> sortGroup Spread.sortRun Spread.closeUp g
    | none => pure d
  let (declarations, s) := sortAll.run ⟨f.comments, f.lines⟩
  { f with declarations, comments := s.comments, lines := s.lines }

/-! ## Empty lines between imports -/

open Text

/-- The paths at which a new group begins. An empty line divides groups already. -/
def gapsIn (lines : LineTable) : List Spec → List Bytes
  | s :: t :: rest =>
    let gaps := gapsIn lines (t :: rest)
    if lines.line s.pathStart + 1 < lines.line t.pathStart ||
      importGroup s.path == importGroup t.path then gaps
    else t.path :: gaps
  | _ => []

/-- The paths of a file that need an empty line in front of them. -/
def gaps (f : File) : List Bytes :=
  ((f.declarations.map group?).takeWhile Option.isSome).flatMap fun g =>
    gapsIn f.lines ((g.map (·.specs)).getD [])

/-- White space of one byte. -/
def isSpace (c : Char) : Bool := [' ', '\t', '\n', '\r', '\x0c'].contains c

/-- The characters of the name of an import. -/
def isNameChar (c : Char) : Bool := c.isAlphanum || c == '_' || c == '.'

/-- The text behind an opening quote, up to the next quote but for the first character. -/
def quoted? : List Char → Option String
  | [] => none
  | c :: rest => (cutAt '"' rest).map fun (text, _) => String.ofList (c :: text)

/-- The quoted text on a line of an import declaration. -/
def linePath? (line : String) : Option String :=
  let cs := line.toList
  let rest := cs.dropWhile isSpace
  if !cs.head?.any isSpace then none
  else
    match rest with
    | '"' :: path => quoted? path
    | _ =>
      let behind := rest.dropWhile isNameChar
      match rest.head?.any isNameChar && behind.head?.any isSpace, behind.dropWhile isSpace with
      | true, '"' :: path => quoted? path
      | _, _ => none

/-- Where a line stands: above the imports, among them, or below. -/
inductive Zone where
  | above
  | among
  | below
deriving DecidableEq

/-- The zone of a line. -/
def Zone.next (z : Zone) (line : String) : Zone :=
  let z := if z == .above && hasStart "import" line then .among else z
  if z == .among && ["var", "func", "const", "type"].any (hasStart · line) then .below else z

/-- Lines with an empty line in front of every path that needs one. -/
def spacedLines (zone : Zone) (gaps : List Bytes) : List String → List String
  | [] => []
  | line :: rest =>
    let zone := zone.next line
    match gaps with
    | [] => line :: rest
    | gap :: others =>
      if zone == .among && (linePath? line).any (bytesOf · == gap) then
        "" :: line :: spacedLines zone others rest
      else line :: spacedLines zone gaps rest

/-- A printed text with its groups of imports apart. -/
def addGaps (gaps : List Bytes) (text : String) : String :=
  joinWith "\n" (spacedLines .above gaps (split '\n' text))

end ApiCompiler.Go.Imports
