import ApiCompiler.Target.Go.Imports.Path
import ApiCompiler.Target.Go.Layout.Expressions

/-!
# Declarations

Grouped constants and variables are columns of names, types and values. Declarations with
different keywords, and those with documentation, have an empty line between them.
-/

namespace ApiCompiler.Go.Layout

open Draw

/-- The values of a declaration behind an equals sign. -/
def values (l : Layout) (separator : Space) (list : List Expr) : Draw Unit := do
  space separator
  mark "="
  blank
  l.exprList .plain none list 1 none

/-- Constants or variables as a row of columns. The column of types is kept where other rows have
types; without a type or values a remark stands where it would stand behind them. -/
def valueRow (l : Layout) (keepsType : Bool) (s : Spec) (names : List Name) (type : Option Expr)
    (list : List Expr) : Draw Unit := do
  comment s.docs
  l.nameList true names
  let hasType := type.isSome || keepsType
  if hasType then space .softTab
  type.forM l.whole
  if !list.isEmpty then l.values .softTab list
  if s.remark.isSome then
    let missing := 3 - (if hasType then 1 else 0) - (if list.isEmpty then 0 else 1)
    (List.replicate missing Space.softTab).forM space
  comment s.remark

/-- The literal of an import with its path in the usual quotes. -/
def withWrittenPath (e : Expr) : Expr :=
  match e.form with
  | .literal kind text => { e with form := .literal kind (writtenPath text) }
  | _ => e

/-- An item of a declaration. `isAlone` says that it is the only item, and `isIndented` that it
stands without parentheses. -/
def spec (l : Layout) (isAlone isIndented : Bool) (s : Spec) : Draw Unit := do
  comment s.docs
  match s.form with
  | .imported ownName path ending =>
    ownName.forM fun n => do
      l.whole n.toExpr
      blank
    l.whole (withWrittenPath path)
    comment s.remark
    moveTo? ending
  | .value names type list =>
    l.nameList (!isIndented) names
    type.forM fun t => do
      blank
      l.whole t
    if !list.isEmpty then l.values .blank list
    comment s.remark
  | .type typeName typeParameters isAlias type =>
    l.whole typeName.toExpr
    typeParameters.forM (l.parameters .ofType)
    space (if isAlone then .blank else .softTab)
    if isAlias then
      mark "="
      blank
    l.whole type
    comment s.remark

/-- The item has a type, and the item has values. -/
def hasTypeAndValues (s : Spec) : Bool × Bool :=
  match s.form with
  | .value _ type list => (type.isSome, !list.isEmpty)
  | _ => (false, false)

/-- Which items keep the column of types: those of a run of items with values of which one has a
type. -/
def keptTypes (specs : List Spec) : List Bool :=
  match specs with
  | [] => []
  | first :: rest =>
    let run := rest.takeWhile fun s => (hasTypeAndValues s).2
    if (hasTypeAndValues first).2 then
      let keeps := (first :: run).any fun s => (hasTypeAndValues s).1
      List.replicate (run.length + 1) keeps ++ keptTypes (rest.drop run.length)
    else false :: keptTypes rest
termination_by specs.length

/-- An item of a group of constants or variables. -/
def groupedSpec (l : Layout) (keepsType : Bool) (s : Spec) : Draw Unit :=
  match s.form with
  | .value names type list => l.valueRow keepsType s names type list
  | _ => l.spec false false s

/-- Items in parentheses. -/
def specRows (l : Layout) (keyword : String) (specs : List Spec) : Draw Unit := do
  indent
  formfeed
  let isAlone := specs.length == 1
  let isColumns := !isAlone && (keyword == "const" || keyword == "var")
  let slot ← newSlot
  (specs.zip (keptTypes specs)).zipIdx.forM fun ((s, keepsType), index) => do
    if index != 0 then
      let _ ← breakTo (← lineOf s.start) 1 .nothing (← hasLinesSince slot)
    awaitLine slot
    if isColumns then l.groupedSpec keepsType s else l.spec isAlone false s
  unindent
  formfeed

/-- A declaration of imports, constants, variables or types. -/
def group (l : Layout) (g : Group) : Draw Unit := do
  comment g.docs
  moveTo g.start
  keyword g.keyword
  blank
  match g.opening, g.specs with
  | none, [s] => l.spec true true s
  | opening, specs =>
    moveTo? opening
    mark "("
    if !specs.isEmpty then l.specRows g.keyword specs
    moveTo? g.closing
    mark ")"

/-- A function or a method. -/
def function (l : Layout) (f : Function) : Draw Unit := do
  comment f.docs
  moveTo f.type.start
  keyword "func"
  blank
  let column := (← get).outColumn - 5
  f.receiver.forM fun r => do
    l.parameters .parameters r
    blank
  l.whole f.name.toExpr
  l.signature f.type
  f.body.forM fun b => do l.body (← distanceFrom? f.type.start column) .softTab b

/-- A declaration at the top level. -/
def topLevel (l : Layout) : TopLevel → Draw Unit
  | .group g => l.group g
  | .function f => l.function f

/-- The breaks in front of a declaration that follows one with a keyword. A function of several
lines begins a new section. -/
def breakBefore (before : Option String) (d : TopLevel) : Draw Unit := do
  let least := if before != some d.keyword || d.docs.isSome then 2 else 1
  let line ← lineOf d.start
  let isSection := d.keyword == "func" && line < (← lineOf d.stop)
  let _ ← breakTo line least .nothing isSection

/-- Declarations at the top level. -/
def topLevels (l : Layout) (before : Option String) : List TopLevel → Draw Unit
  | [] => return ()
  | d :: rest => do
    if (← get).count != 0 then breakBefore before d
    l.topLevel d
    l.topLevels (some d.keyword) rest

/-- A source file. -/
def file (l : Layout) (f : File) : Draw Unit := do
  comment f.docs
  moveTo f.start
  keyword "package"
  blank
  l.whole f.package.toExpr
  l.topLevels none f.declarations
  space .newline

end ApiCompiler.Go.Layout
