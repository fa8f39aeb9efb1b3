import ApiCompiler.Target.Python.Options

/-!
# Packaging metadata

The TOML file that makes generated code installable. A text is written in single quotes where
it can be, and in double quotes with escapes where it cannot.
-/

namespace ApiCompiler.Python

open Text

namespace Toml

/-- A control character without a place in a plain text. -/
def isControl (c : Char) : Bool :=
  let n := c.toNat
  n ≤ 0x8 || (0xB ≤ n && n ≤ 0xC) || (0xE ≤ n && n ≤ 0x1F) || n == 0x7F

/-- A character that single quotes cannot hold. -/
def needsQuoting (c : Char) : Bool := c == '\'' || c == '\r' || c == '\n' || isControl c

/-- The upper-case form of a hexadecimal digit. -/
def upperHex (n : Nat) : Char := (hexDigit n).toUpper

/-- One character in double quotes. -/
def escape (c : Char) : List Char :=
  if c = '\\' then ['\\', '\\']
  else if c = '"' then ['\\', '"']
  else if c = '\x08' then ['\\', 'b']
  else if c = '\x0c' then ['\\', 'f']
  else if c = '\n' then ['\\', 'n']
  else if c = '\r' then ['\\', 'r']
  else if c = '\t' then ['\\', 't']
  else if isControl c then
    ['\\', 'u', '0', '0', upperHex (c.toNat / 16), upperHex (c.toNat % 16)]
  else [c]

/-- A text as a value. -/
def text (s : String) : String :=
  if s.toList.any needsQuoting then String.ofList ('"' :: s.toList.flatMap escape ++ ['"'])
  else "'" ++ s ++ "'"

end Toml

/-- The metadata of an installable project, from options with defaults. -/
def packagingFile (s : Settings) : String :=
  let name := if s.distName == "" then s.importName else s.distName
  let lines :=
    ["[build-system]",
     "requires = ['flit_core >=3.2,<4']",
     "build-backend = 'flit_core.buildapi'",
     "",
     "[project]",
     "name = " ++ Toml.text name,
     "version = " ++ Toml.text s.version,
     "authors = []",
     "description = " ++ Toml.text s.description,
     "dependencies = [" ++ Toml.text ("cytonic ~=" ++ s.runtimeVersion) ++ "]"]
  let tool := if s.distName == "" then []
    else ["", "[tool]", "[tool.flit]", "[tool.flit.module]", "name = " ++ Toml.text s.importName]
  joinWith "\n" (lines ++ tool) ++ "\n"

end ApiCompiler.Python
