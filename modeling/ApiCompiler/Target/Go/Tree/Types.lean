import ApiCompiler.Target.Go.Tree.Parse

/-!
# Parsing types

Names, arrays, structs, functions, interfaces, maps and channels, and the lists of fields and
parameters in them.
-/

namespace ApiCompiler.Go.Grammar

open Parse

/-- A type that has to be there. -/
def type (g : Grammar) : Parse Expr := do
  match ← g.type? with
  | some t => return t
  | none => malformed

/-- An expression with its indices or type arguments. -/
def indexed (operand : Expr) (opening : Nat) (indices : List Expr) (closing : Nat) : Expr :=
  ⟨operand.start, closing + 1, .index operand opening indices closing⟩

/-- A name that may be qualified, or what follows its first part. -/
def typeName (first : Option Name) : Parse Expr := do
  let n ← first.elim name pure
  match ← mark? "." with
  | some _ =>
    let member ← name
    return ⟨n.start, member.stop, .selector n.toExpr member⟩
  | none => return n.toExpr

/-- The type arguments of a type. -/
def instantiated (g : Grammar) (operand : Expr) : Parse Expr := do
  let opening ← mark "["
  let arguments ← nested (listUpTo "]" g.type)
  let closing ← mark "]"
  if arguments.isEmpty then malformed else return indexed operand opening arguments closing

/-- A name that may be qualified and have type arguments. -/
def qualifiedName (g : Grammar) (first : Option Name) : Parse Expr := do
  let t ← typeName first
  if ← isAtMark "[" then g.instantiated t else return t

/-- An array type behind its opening bracket. Its length may have been read before. -/
def arrayFrom (g : Grammar) (opening : Nat) (length : Option Expr) : Parse Expr := do
  let length ← match length with
    | some e => pure (some e)
    | none => nested do
      match ← kind with
      | .mark "..." =>
        let t ← next
        return some ⟨t.start, t.stop, .dots none⟩
      | .mark "]" => return none
      | _ => return some (← g.expression)
  let _ ← mark "]"
  let element ← g.type
  return ⟨opening, element.stop, .array length element⟩

/-- What follows a name and a bracket: the name has an array type, or it is a type with
arguments, and then there is no name. -/
def arrayOrInstance (g : Grammar) (n : Name) : Parse (Option Name × Expr) := do
  let opening ← mark "["
  if ← isAtMark "]" then
    skip
    let element ← g.type
    return (some n, ⟨opening, element.stop, .array none element⟩)
  let first ← nested g.expression
  let rest ← nested (manyWhile (· == .mark ",") do
    skip
    if ← isAtMark "]" then return none else return some (← g.expression))
  let closing ← mark "]"
  let arguments := first :: rest.filterMap id
  let isInstance := (none, indexed n.toExpr opening arguments closing)
  match arguments with
  | [length] =>
    match ← g.type? with
    | some element =>
      if rest.isEmpty then return (some n, ⟨opening, element.stop, .array length element⟩)
      else malformed
    | none => return isInstance
  | _ => return isInstance

/-- A term of a set of types. -/
def typeTerm (g : Grammar) : Parse Expr := do
  match ← mark? "~" with
  | some start =>
    let t ← g.type
    return ⟨start, t.stop, .unary "~" t⟩
  | none => g.type

/-- A set of types: terms with bars between them. The first term may have been read before. -/
def typeSet (g : Grammar) (first : Option Expr) : Parse Expr := do
  let first ← first.elim g.typeTerm pure
  let rest ← manyWhile (· == .mark "|") do
    let place ← mark "|"
    return (place, ← g.typeTerm)
  return rest.foldl (fun left (place, right) =>
    ⟨left.start, right.stop, .binary left "|" place right⟩) first

/-- The type of a parameter that takes any number of arguments. -/
def dotsType (g : Grammar) : Parse Expr := do
  let start ← mark "..."
  let element ← g.type
  return ⟨start, element.stop, .dots element⟩

/-- An entry of a list of parameters: a name, a type, or both. -/
abbrev Entry := Option Name × Option Expr

/-- The tokens that begin a type, names and brackets apart. -/
def typeStarts : List TokenKind :=
  [.mark "*", .mark "<-", .keyword "func", .keyword "chan", .keyword "map", .keyword "struct",
   .keyword "interface", .mark "("]

/-- An entry whose name was read. In a list of type parameters the type may be a set of types;
the flag says whether a bar may still follow. -/
def namedEntry (g : Grammar) (isTypeSet : Bool) (n : Name) : Parse (Entry × Bool) := do
  let k ← kind
  if k == .name || typeStarts.contains k then return ((some n, some (← g.type)), true)
  match k with
  | .mark "[" =>
    let (n, t) ← g.arrayOrInstance n
    return ((n, some t), true)
  | .mark "..." => return ((some n, some (← g.dotsType)), false)
  | .mark "." => return ((none, some (← g.qualifiedName n)), true)
  | .mark "~" =>
    if isTypeSet then return ((some n, some (← g.typeSet none)), false)
    else return ((some n, none), true)
  | .mark "|" =>
    if isTypeSet then return ((none, some (← g.typeSet n.toExpr)), false)
    else return ((some n, none), true)
  | _ => return ((some n, none), true)

/-- An entry without a name in front of it. -/
def unnamedEntry (g : Grammar) (isTypeSet : Bool) : Parse (Entry × Bool) := do
  let k ← kind
  if isTypeSet && k == .mark "~" then return ((none, some (← g.typeSet none)), false)
  else if k == .mark "[" || typeStarts.contains k then return ((none, some (← g.type)), true)
  else if k == .mark "..." then return ((none, some (← g.dotsType)), false)
  else malformed

/-- An entry of a list of parameters. Its name may have been read before. -/
def entry (g : Grammar) (isTypeSet : Bool) (first : Option Name) : Parse Entry := do
  let (e, isOpen) ← match first with
    | some n => g.namedEntry isTypeSet n
    | none =>
      if ← isAt .name then g.namedEntry isTypeSet (← name) else g.unnamedEntry isTypeSet
  match e with
  | (n, some t) =>
    if isTypeSet && isOpen && (← isAtMark "|") then return (n, some (← g.typeSet t))
    else return e
  | _ => return e

/-- A field without documentation, tag and remark. -/
def plainField (names : List Name) (type : Expr) : Field := ⟨none, names, type, none, none⟩

/-- The fields of entries of which none has a name and a type: names are types. -/
def unnamedFields : List Entry → Option (List Field)
  | [] => some []
  | (_, some t) :: rest => (unnamedFields rest).map (plainField [] t :: ·)
  | (some n, none) :: rest => (unnamedFields rest).map (plainField [] n.toExpr :: ·)
  | (none, none) :: _ => none

/-- The fields of entries that all have names: a type belongs to the names in front of it, the
latest of which come first in `names`. -/
def namedFields (names : List Name) : List Entry → Option (List Field)
  | [] => if names.isEmpty then some [] else none
  | (some n, none) :: rest => namedFields (n :: names) rest
  | (some n, some t) :: rest =>
    (namedFields [] rest).map (plainField (n :: names).reverse t :: ·)
  | (none, _) :: _ => none

/-- Dots stand at the last entry only, if at all. -/
def dotsFit (allowsDots : Bool) : List Entry → Bool
  | [] => true
  | [(_, t)] => allowsDots || !t.any (·.isDots)
  | (_, t) :: rest => !t.any (·.isDots) && dotsFit allowsDots rest

/-- The fields of a list of parameters. Type parameters have names. -/
def fieldsOf? (isTypes allowsDots : Bool) (entries : List Entry) : Option (List Field) :=
  if !dotsFit allowsDots entries then none
  else if entries.any fun (n, t) => n.isSome && t.isSome then namedFields [] entries
  else if isTypes && !entries.isEmpty then none
  else unnamedFields entries

/-- A list of parameters up to a closing mark. The name of the first one, and its type, may
have been read before. -/
def parameterList (g : Grammar) (name : Option Name) (type : Option Expr) (closing : String)
    (allowsDots : Bool) : Parse (List Field) := do
  let isTypes := closing == "]"
  let first ← match name, type with
    | _, some t =>
      let t ← if isTypes then g.typeSet t else pure t
      pure [(name, some t)]
    | some n, none => pure [← g.entry isTypes n]
    | none, none => pure []
  if !first.isEmpty then comma closing
  let rest ← listUpTo closing (g.entry isTypes none)
  match fieldsOf? isTypes allowsDots (first ++ rest) with
  | some fields => return fields
  | none => malformed

/-- Parameters in parentheses. -/
def parameters (g : Grammar) (allowsDots : Bool) : Parse FieldList := do
  let opening ← mark "("
  let fields ← g.parameterList none none ")" allowsDots
  let closing ← mark ")"
  return ⟨opening, fields, closing⟩

/-- The results of a function, if it has any. -/
def results (g : Grammar) : Parse (Option FieldList) := do
  if ← isAtMark "(" then return some (← g.parameters false)
  else return (← g.type?).map fun t => ⟨none, [plainField [] t], none⟩

/-- The offset behind a list of fields. -/
def fieldsStop (l : FieldList) : Nat :=
  match l.closing with
  | some closing => closing + 1
  | none => (l.fields.getLast?.map (·.stop)).getD 0

/-- The parameters and results of a function that begins at an offset, or else at its
parameters. -/
def signature (g : Grammar) (start : Option Nat) (typeParameters : Option FieldList) :
    Parse Signature := do
  let parameters ← g.parameters true
  let results ← g.results
  return ⟨start.getD (parameters.opening.getD 0), (results.map fieldsStop).getD
    (fieldsStop parameters), typeParameters, parameters, results⟩

/-- A function type. It has no type parameters. -/
def functionType (g : Grammar) : Parse Signature := do
  let start ← keyword "func"
  g.signature start none

/-- The type parameters of a function. -/
def typeParameters (g : Grammar) : Parse FieldList := do
  let opening ← mark "["
  let fields ← g.parameterList none none "]" false
  let closing ← mark "]"
  if fields.isEmpty then malformed else return ⟨opening, fields, closing⟩

/-- The names and the type of a field, or an embedded type. -/
def fieldType (g : Grammar) : Parse (List Name × Expr) := do
  match ← mark? "*" with
  | some start =>
    let t ← g.qualifiedName none
    return ([], ⟨start, t.stop, .star t⟩)
  | none =>
    let n ← name
    match ← kind with
    | .mark "." => return ([], ← g.qualifiedName n)
    | .string | .semicolon _ | .mark "\x7d" => return ([], n.toExpr)
    | .mark "[" =>
      let (n, t) ← g.arrayOrInstance n
      return (n.toList, t)
    | _ =>
      let rest ← manyWhile (· == .mark ",") do
        skip
        name
      return (n :: rest, ← g.type)

/-- A field of a struct. -/
def field (g : Grammar) : Parse Field := do
  let docs := (← peek).lead
  let (names, type) ← g.fieldType
  let tag ← if ← isAt .string then some <$> literal else pure none
  let remark ← endStatement
  return ⟨docs, names, type, tag, remark⟩

/-- A struct. -/
def struct (g : Grammar) : Parse Expr := do
  let start ← keyword "struct"
  let opening ← mark "\x7b"
  let fields ← manyWhile (fun k => k == .name || k == .mark "*") g.field
  let closing ← mark "\x7d"
  return ⟨start, closing + 1, .struct ⟨opening, fields, closing⟩⟩

/-- A method of an interface, or an embedded type with its arguments. -/
def member (g : Grammar) : Parse Field := do
  let docs := (← peek).lead
  let t ← typeName none
  match t.name?, ← kind with
  | some n, .mark "(" =>
    let s ← g.signature none none
    return ⟨docs, [n], ⟨s.start, s.stop, .functionType s⟩, none, none⟩
  | some _, .mark "[" =>
    let opening ← mark "["
    let first ← nested g.expression
    comma "]"
    let rest ← nested (listUpTo "]" g.type)
    let closing ← mark "]"
    return ⟨docs, [], indexed t opening (first :: rest) closing, none, none⟩
  | none, .mark "[" => return ⟨docs, [], ← g.instantiated t, none, none⟩
  | _, _ => return ⟨docs, [], t, none, none⟩

/-- An element of an interface. -/
def interfaceElement (g : Grammar) : Parse (Option Field) := do
  let k ← kind
  if k == .name then
    let f ← g.member
    let type ← if f.names.isEmpty then g.typeSet f.type else pure f.type
    return some { f with type, remark := ← endStatement }
  else if k == .mark "~" then
    let type ← g.typeSet none
    return some { plainField [] type with remark := ← endStatement }
  else
    match ← g.type? with
    | some t =>
      let type ← g.typeSet t
      return some { plainField [] type with remark := ← endStatement }
    | none => return none

/-- An interface. -/
def interface (g : Grammar) : Parse Expr := do
  let start ← keyword "interface"
  let opening ← mark "\x7b"
  let elements ← many g.interfaceElement
  let closing ← mark "\x7d"
  return ⟨start, closing + 1, .interface ⟨opening, elements, closing⟩⟩

/-- A map. -/
def map (g : Grammar) : Parse Expr := do
  let start ← keyword "map"
  let _ ← mark "["
  let key ← g.type
  let _ ← mark "]"
  let value ← g.type
  return ⟨start, value.stop, .map key value⟩

/-- A channel. -/
def channel (g : Grammar) : Parse Expr := do
  match ← mark? "<-" with
  | some arrow =>
    let _ ← keyword "chan"
    let element ← g.type
    return ⟨arrow, element.stop, .channel arrow .receive element⟩
  | none =>
    let start ← keyword "chan"
    let arrow ← mark? "<-"
    let element ← g.type
    return ⟨start, element.stop,
      .channel (arrow.getD start) (if arrow.isSome then .send else .both) element⟩

/-- A type, if one begins here. -/
def typeStep (g : Grammar) : Parse (Option Expr) := do
  let t ← peek
  match t.kind with
  | .name => return some (← g.qualifiedName none)
  | .mark "[" =>
    skip
    return some (← g.arrayFrom t.start none)
  | .mark "*" =>
    skip
    let inner ← g.type
    return some ⟨t.start, inner.stop, .star inner⟩
  | .mark "<-" | .keyword "chan" => return some (← g.channel)
  | .mark "(" =>
    skip
    let inner ← g.type
    let closing ← mark ")"
    return some ⟨t.start, closing + 1, .paren inner closing⟩
  | .keyword "struct" => return some (← g.struct)
  | .keyword "interface" => return some (← g.interface)
  | .keyword "map" => return some (← g.map)
  | .keyword "func" =>
    let s ← g.functionType
    return some ⟨s.start, s.stop, .functionType s⟩
  | _ => return none

end ApiCompiler.Go.Grammar
