import ApiCompiler.Yaml.Resolve

/-!
# Nodes

The tree of a document. Every node knows its line, counted from one, and its tag in short
form; for a scalar without a tag it is the one that the text implies. An alias holds a number of
its own and the number of the anchored node that it stands for, which may be a node around it. A
document holds its root and the anchored nodes.
-/

namespace ApiCompiler.Yaml

/-- A node of a document. -/
inductive Node where
  | scalar (line : Nat) (tag text : String)
  | sequence (line : Nat) (tag : String) (items : List Node)
  | mapping (line : Nat) (tag : String) (entries : List (Node × Node))
  | aliasOf (line : Nat) (name : String) (number target : Nat)
deriving Repr, Inhabited

namespace Node

/-- The line on which a node begins. -/
def line : Node → Nat
  | scalar line _ _ => line
  | sequence line _ _ => line
  | mapping line _ _ => line
  | aliasOf line _ _ _ => line

/-- The tag of a node that is no alias. -/
def tag : Node → String
  | scalar _ tag _ => tag
  | sequence _ tag _ => tag
  | mapping _ tag _ => tag
  | aliasOf _ _ _ _ => ""

/-- The text of a node as written: of a scalar its text, of an alias its name. -/
def text : Node → String
  | scalar _ _ text => text
  | aliasOf _ name _ _ => name
  | _ => ""

/-- A null, written or implied. -/
def isNull (n : Node) : Bool := n.tag == nullTag

/-- A mapping. -/
def isMapping : Node → Bool
  | mapping _ _ _ => true
  | _ => false

/-- The key of a mapping that stands for the entries of other mappings. -/
def isMerge : Node → Bool
  | scalar _ tag text => text == "<<" && tag == mergeTag
  | _ => false

/-- Two nodes of one kind. -/
def sameKind : Node → Node → Bool
  | scalar _ _ _, scalar _ _ _ => true
  | sequence _ _ _, sequence _ _ _ => true
  | mapping _ _ _, mapping _ _ _ => true
  | aliasOf _ _ _ _, aliasOf _ _ _ _ => true
  | _, _ => false

/-- The name of the kind of a node. -/
def kindName : Node → String
  | scalar _ _ _ => "scalar"
  | sequence _ _ _ => "sequence"
  | mapping _ _ _ => "mapping"
  | aliasOf _ _ _ _ => "alias"

/-- The complaints about keys that are written twice in one mapping. -/
def repeatedKeys : List Node → List String
  | [] => []
  | key :: rest =>
    (rest.filter fun other => key.sameKind other && key.text == other.text).map (fun other =>
      s!"line {other.line}: mapping key {Text.quote other.text} already defined at line {key.line}")
      ++ repeatedKeys rest

/-- A mapping has a key with this text. -/
def hasKey (n : Node) (key : String) : Bool :=
  match n with
  | mapping _ _ entries => entries.any fun (k, _) => k.text == key
  | _ => false

end Node

/-- The root of a document, the nodes with anchors, and how deep a reading can go that enters no
alias twice. -/
structure Document where
  root : Node
  anchored : Array Node
  depth : Nat

end ApiCompiler.Yaml
