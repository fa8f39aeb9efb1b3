import ApiCompiler.Yaml.Cursor

/-!
# Tokens

The tokens of a document. Indentation appears as explicit beginnings and ends of block
collections, and a key is announced by a token of its own.
-/

namespace ApiCompiler.Yaml

/-- How a scalar was written. -/
inductive ScalarStyle where
  | plain
  | quoted
deriving DecidableEq, Repr

/-- What a token says. -/
inductive TokenKind where
  | streamStart
  | streamEnd
  | versionDirective (major minor : Nat)
  | tagDirective (handle head : String)
  | documentStart
  | documentEnd
  | blockSequenceStart
  | blockMappingStart
  | blockEnd
  | flowSequenceStart
  | flowSequenceEnd
  | flowMappingStart
  | flowMappingEnd
  | blockEntry
  | flowEntry
  | key
  | value
  | aliasOf (name : String)
  | anchor (name : String)
  | tag (handle suffix : String)
  | scalar (text : String) (style : ScalarStyle)
deriving DecidableEq, Repr

/-- A token with the lines on which it begins and ends. -/
structure Token where
  kind : TokenKind
  line : Nat
  endLine : Nat
deriving DecidableEq, Repr

end ApiCompiler.Yaml
