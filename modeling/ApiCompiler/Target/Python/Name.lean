/-!
# Names in Python

Which texts are identifiers of Python, and which names an argument of a generated method must
not have.
-/

namespace ApiCompiler.Python

/-- The reserved words, including those that are reserved in places. -/
def keywords : List String :=
  ["False", "None", "True", "and", "as", "assert", "async", "await", "break", "class", "continue",
   "def", "del", "elif", "else", "except", "finally", "for", "from", "global", "if", "import",
   "in", "is", "lambda", "nonlocal", "not", "or", "pass", "raise", "return", "try", "while",
   "with", "yield", "match", "case", "type"]

/-- The builtin names that an argument could shadow. -/
def builtins : List String :=
  ["abs", "aiter", "all", "anext", "any", "ascii", "bin", "bool", "breakpoint", "bytearray",
   "bytes", "callable", "chr", "classmethod", "compile", "complex", "copyright", "credits",
   "delattr", "dict", "dir", "divmod", "enumerate", "eval", "exec", "exit", "filter", "float",
   "format", "frozenset", "getattr", "globals", "hasattr", "hash", "help", "hex", "id", "input",
   "int", "isinstance", "issubclass", "iter", "len", "license", "list", "locals", "map", "max",
   "memoryview", "min", "next", "object", "oct", "open", "ord", "pow", "print", "property",
   "quit", "range", "repr", "reversed", "round", "set", "setattr", "slice", "sorted",
   "staticmethod", "str", "sum", "super", "tuple", "type", "vars", "zip", "__import__",
   "__build_class__", "__debug__", "__doc__", "__loader__", "__name__", "__package__",
   "__spec__", "Ellipsis", "NotImplemented", "BaseException", "Exception", "ArithmeticError",
   "AssertionError", "AttributeError", "EOFError", "ImportError", "IndexError", "KeyError",
   "LookupError", "NameError", "OSError", "RuntimeError", "StopIteration", "TypeError",
   "ValueError", "ZeroDivisionError"]

/-- The names that generated signatures use themselves. -/
def reservedArguments : List String := ["self", "request", "auth"]

/-- An argument of this name would shadow a reserved word, a builtin or a generated parameter. -/
def collides (name : String) : Bool :=
  keywords.contains name || builtins.contains name || reservedArguments.contains name

/-- A character that begins identifiers. -/
def isIdentifierStart (c : Char) : Bool := c == '_' || c.isAlpha

/-- A character inside identifiers. -/
def isIdentifierChar (c : Char) : Bool := isIdentifierStart c || c.isDigit

/-- An identifier of ASCII characters that is no reserved word. -/
def isIdentifier (s : String) : Bool :=
  !keywords.contains s &&
    match s.toList with
    | [] => false
    | c :: rest => isIdentifierStart c && rest.all isIdentifierChar

end ApiCompiler.Python
