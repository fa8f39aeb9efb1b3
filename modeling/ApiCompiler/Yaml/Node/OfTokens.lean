import ApiCompiler.Yaml.Node
import ApiCompiler.Yaml.Token.Scan

/-!
# The tree of a document

Reading the first document of a text. What follows the first document is not read, except for
the tokens that have to be known before the last one of the document is.
-/

namespace ApiCompiler.Yaml

/-- The state of reading: the tokens, the anchors by name, the latest first, the anchored nodes,
the number of aliases, and the handles of tags. -/
structure Reading where
  scan : Scan
  anchors : List (String × Nat)
  anchored : Array Node
  aliases : Nat
  handles : List (String × String)

/-- A step of reading. A step without a result means a malformed document. -/
abbrev Read (α : Type) := StateT Reading Option α

namespace Read

/-- A malformed document. -/
def malformed {α : Type} : Read α := fun _ => none

/-- The next token, which is left in place. -/
def peek : Read Token := fun s => do
  let (t, scan) ← s.scan.peek
  return (t, { s with scan })

/-- Drops the next token. -/
def skip : Read Unit :=
  modify fun s => { s with scan := s.scan.skip }

/-- Drops the next token and gives the one behind it. -/
def next : Read Token := do
  skip
  peek

/-- Opens an anchor and gives the number of its node. -/
def openAnchor (name : String) : Read Nat := do
  let s ← get
  let number := s.anchored.size
  set { s with
    anchors := (name, number) :: s.anchors
    anchored := s.anchored.push (.scalar 0 nullTag "") }
  return number

/-- Completes the anchored node with a number. -/
def closeAnchor (number : Nat) (node : Node) : Read Unit :=
  modify fun s => { s with anchored := s.anchored.setIfInBounds number node }

/-- The alias of an anchor. -/
def lookup (line : Nat) (name : String) : Read Node := do
  let s ← get
  match s.anchors.lookup name with
  | none => malformed
  | some target =>
    set { s with aliases := s.aliases + 1 }
    return .aliasOf line name s.aliases target

/-- A text that was left out, at a line counted from zero. -/
def absent (line : Nat) : Node := .scalar (line + 1) nullTag ""

/-- The properties in front of a node. -/
structure Properties where
  anchor : Option String
  tag : Option (String × String)

/-- An anchor, a tag, or both in either order, and the token behind them. -/
def properties (t : Token) : Read (Properties × Token) := do
  match t.kind with
  | .anchor name =>
    let t ← next
    match t.kind with
    | .tag handle suffix =>
      let t ← next
      return (⟨some name, some (handle, suffix)⟩, t)
    | _ => return (⟨some name, none⟩, t)
  | .tag handle suffix =>
    let t ← next
    match t.kind with
    | .anchor name =>
      let t ← next
      return (⟨some name, some (handle, suffix)⟩, t)
    | _ => return (⟨none, some (handle, suffix)⟩, t)
  | _ => return (⟨none, none⟩, t)

/-- The tag in full; empty without one. -/
def fullTag (p : Properties) : Read String := do
  match p.tag with
  | none => return ""
  | some ("", suffix) => return suffix
  | some (handle, suffix) =>
    match (← get).handles.find? (·.1 == handle) with
    | some (_, head) => return head ++ suffix
    | none => malformed

/-- The tag of a node in short form, or a given one if there is no specific tag. -/
def specificTag (tag fallback : String) : String :=
  if tag == "" || tag == "!" then fallback else shortTag tag

/-- The tag of a scalar. -/
def scalarTag (tag : String) (style : ScalarStyle) (text : String) : String :=
  specificTag tag <|
    match style with
    | .quoted => strTag
    | .plain => if text == "<<" then mergeTag else impliedTag text

/-- Where a node stands, which decides the forms it may have. -/
structure Place where
  /-- Block collections are possible. -/
  block : Bool
  /-- A sequence may begin without indentation of its own. -/
  indentless : Bool

/-- A node that consists of its properties only. -/
def content (line : Nat) (tag : String) (props : Properties) : Read Node :=
  if props.anchor.isNone && tag == "" then malformed
  else pure (.scalar line (scalarTag tag .plain "") "")

mutual

/-- A node. -/
def node (place : Place) : Nat → Read Node
  | 0 => malformed
  | fuel + 1 => do
    let first ← peek
    match first.kind with
    | .aliasOf name =>
      skip
      lookup (first.line + 1) name
    | _ =>
      let line := first.line + 1
      let (props, t) ← properties first
      let tag ← fullTag props
      let number ← match props.anchor with
        | some name => (openAnchor name).map some
        | none => pure none
      let result ← match t.kind with
        | .scalar text style =>
          skip
          pure (Node.scalar line (scalarTag tag style text) text)
        | .flowSequenceStart =>
          skip
          pure (Node.sequence line (specificTag tag seqTag) (← flowItems fuel true))
        | .flowMappingStart =>
          skip
          pure (Node.mapping line (specificTag tag mapTag) (← flowEntries fuel true))
        | .blockEntry =>
          if place.indentless then
            pure (Node.sequence line (specificTag tag seqTag) (← indentlessItems fuel))
          else content line tag props
        | .blockSequenceStart =>
          if place.block then
            skip
            pure (Node.sequence line (specificTag tag seqTag) (← blockItems fuel))
          else content line tag props
        | .blockMappingStart =>
          if place.block then
            skip
            pure (Node.mapping line (specificTag tag mapTag) (← blockEntries fuel))
          else content line tag props
        | _ => content line tag props
      match number with
      | some number => closeAnchor number result
      | none => pure ()
      return result

/-- The items of a block sequence behind its beginning. -/
def blockItems : Nat → Read (List Node)
  | 0 => malformed
  | fuel + 1 => do
    let t ← peek
    match t.kind with
    | .blockEntry =>
      let following ← next
      let item ← match following.kind with
        | .blockEntry | .blockEnd => pure (absent t.endLine)
        | _ => node ⟨true, false⟩ fuel
      return item :: (← blockItems fuel)
    | .blockEnd =>
      skip
      return []
    | _ => malformed

/-- The items of a sequence without indentation of its own. -/
def indentlessItems : Nat → Read (List Node)
  | 0 => malformed
  | fuel + 1 => do
    let t ← peek
    match t.kind with
    | .blockEntry =>
      let following ← next
      let item ← match following.kind with
        | .blockEntry | .key | .value | .blockEnd => pure (absent t.endLine)
        | _ => node ⟨true, false⟩ fuel
      return item :: (← indentlessItems fuel)
    | _ => return []

/-- The entries of a block mapping behind its beginning. -/
def blockEntries : Nat → Read (List (Node × Node))
  | 0 => malformed
  | fuel + 1 => do
    let t ← peek
    match t.kind with
    | .key =>
      let following ← next
      let key ← match following.kind with
        | .key | .value | .blockEnd => pure (absent t.endLine)
        | _ => node ⟨true, true⟩ fuel
      let t ← peek
      let value ← match t.kind with
        | .value =>
          let following ← next
          match following.kind with
          | .key | .value | .blockEnd => pure (absent t.endLine)
          | _ => node ⟨true, true⟩ fuel
        | _ => pure (absent t.line)
      return (key, value) :: (← blockEntries fuel)
    | .blockEnd =>
      skip
      return []
    | _ => malformed

/-- The items of a flow sequence behind its bracket; behind the first, each needs a comma. -/
def flowItems : Nat → Bool → Read (List Node)
  | 0, _ => malformed
  | fuel + 1, isFirst => do
    let t ← peek
    if t.kind == .flowSequenceEnd then
      skip
      return []
    let t ← if isFirst then pure t else if t.kind == .flowEntry then next else malformed
    match t.kind with
    | .key =>
      skip
      let entry ← flowPair fuel
      return .mapping (t.line + 1) mapTag [entry] :: (← flowItems fuel false)
    | .flowSequenceEnd =>
      skip
      return []
    | _ =>
      let item ← node ⟨false, false⟩ fuel
      return item :: (← flowItems fuel false)

/-- The single entry of a mapping inside a flow sequence. An absent key takes the token in
its place with it. -/
def flowPair : Nat → Read (Node × Node)
  | 0 => malformed
  | fuel + 1 => do
    let t ← peek
    let key ← match t.kind with
      | .value | .flowEntry | .flowSequenceEnd =>
        skip
        pure (absent t.endLine)
      | _ => node ⟨false, false⟩ fuel
    let t ← peek
    let value ← match t.kind with
      | .value =>
        let following ← next
        match following.kind with
        | .flowEntry | .flowSequenceEnd => pure (absent t.line)
        | _ => node ⟨false, false⟩ fuel
      | _ => pure (absent t.line)
    return (key, value)

/-- The entries of a flow mapping behind its brace; behind the first, each needs a comma. -/
def flowEntries : Nat → Bool → Read (List (Node × Node))
  | 0, _ => malformed
  | fuel + 1, isFirst => do
    let t ← peek
    if t.kind == .flowMappingEnd then
      skip
      return []
    let t ← if isFirst then pure t else if t.kind == .flowEntry then next else malformed
    match t.kind with
    | .key =>
      let t ← next
      let key ← match t.kind with
        | .value | .flowEntry | .flowMappingEnd => pure (absent t.line)
        | _ => node ⟨false, false⟩ fuel
      let t ← peek
      let value ← match t.kind with
        | .value =>
          let following ← next
          match following.kind with
          | .flowEntry | .flowMappingEnd => pure (absent following.line)
          | _ => node ⟨false, false⟩ fuel
        | _ => pure (absent t.line)
      return (key, value) :: (← flowEntries fuel false)
    | .flowMappingEnd =>
      skip
      return []
    | _ =>
      let key ← node ⟨false, false⟩ fuel
      let t ← peek
      return (key, absent t.line) :: (← flowEntries fuel false)

end

/-- The handles that need no declaration. -/
def standardHandles : List (String × String) := [("!", "!"), ("!!", longTagStart)]

/-- The directives in front of a document. Each may stand once. -/
def directives : Nat → Bool → Read Unit
  | 0, _ => malformed
  | fuel + 1, hasVersion => do
    let t ← peek
    match t.kind with
    | .versionDirective major minor =>
      if hasVersion || major != 1 || minor != 1 then malformed
      else
        skip
        directives fuel true
    | .tagDirective handle head =>
      let s ← get
      if s.handles.any (·.1 == handle) then malformed
      else
        set { s with handles := s.handles ++ [(handle, head)] }
        skip
        directives fuel hasVersion
    | _ => return ()

/-- The content of a document behind its explicit beginning. -/
def documentContent (fuel : Nat) : Read Node := do
  let t ← peek
  match t.kind with
  | .versionDirective _ _ | .tagDirective _ _ | .documentStart | .documentEnd | .streamEnd =>
    return absent t.line
  | _ => node ⟨true, false⟩ fuel

/-- The first document, if there is one. -/
def document (fuel : Nat) : Read (Option Node) := do
  let t ← peek
  match t.kind with
  | .streamEnd => return none
  | .versionDirective _ _ | .tagDirective _ _ | .documentStart =>
    directives fuel false
    modify fun s => { s with handles := s.handles ++ standardHandles }
    let t ← peek
    if t.kind != .documentStart then malformed
    else
      skip
      let n ← documentContent fuel
      let _ ← peek
      return some n
  | _ =>
    modify fun s => { s with handles := standardHandles }
    let n ← node ⟨true, false⟩ fuel
    let _ ← peek
    return some n

end Read

/-- The first document of a text; none if the text holds no document. -/
def Document.parse (text : String) : Except Error (Option Document) :=
  let size := 4 * text.length + 16
  match (Read.document size).run ⟨Scan.start text, [], #[], 0, []⟩ with
  | some (some root, s) => .ok (some ⟨root, s.anchored, (s.aliases + 1) * size⟩)
  | some (none, _) => .ok none
  | none => .error (.yaml .malformed)

end ApiCompiler.Yaml
