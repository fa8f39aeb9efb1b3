/-!
# Cutting texts into pieces

Splitting at a separator, looking for a separator from the left or from the right, measuring
in UTF-8 bytes, and sorting by code point.
-/

namespace ApiCompiler.Text

/-- The pieces between the occurrences of one character; there is always at least one. -/
def splitAt (sep : Char) : List Char → List (List Char)
  | [] => [[]]
  | c :: rest =>
    if c = sep then [] :: splitAt sep rest
    else
      match splitAt sep rest with
      | piece :: pieces => (c :: piece) :: pieces
      | [] => [[c]]

/-- The pieces of a text between the occurrences of one character. -/
def split (sep : Char) (s : String) : List String :=
  (splitAt sep s.toList).map String.ofList

/-- The pieces between blank lines: the text is divided at every pair of line breaks. -/
def paragraphs : List Char → List (List Char)
  | [] => [[]]
  | '\n' :: '\n' :: rest => [] :: paragraphs rest
  | c :: rest =>
    match paragraphs rest with
    | piece :: pieces => (c :: piece) :: pieces
    | [] => [[c]]

/-- What stands before and after the first occurrence of a character. -/
def cutAt (sep : Char) : List Char → Option (List Char × List Char)
  | [] => none
  | c :: rest =>
    if c = sep then some ([], rest)
    else (cutAt sep rest).map fun (before, after) => (c :: before, after)

/-- What stands before and after the first occurrence of a character in a text. -/
def cut (sep : Char) (s : String) : Option (String × String) :=
  (cutAt sep s.toList).map fun (before, after) => (String.ofList before, String.ofList after)

/-- What stands before and after the last occurrence of a character. -/
def cutLastAt (sep : Char) (cs : List Char) : Option (List Char × List Char) :=
  (cutAt sep cs.reverse).map fun (after, before) => (before.reverse, after.reverse)

/-- What follows a given beginning, if the list has that beginning. -/
def afterStart (start cs : List Char) : Option (List Char) :=
  if start.isPrefixOf cs then some (cs.drop start.length) else none

/-- What follows a given beginning of a text. -/
def dropStart? (start s : String) : Option String :=
  (afterStart start.toList s.toList).map String.ofList

/-- What precedes a given end of a text. -/
def dropEnd? (stop s : String) : Option String :=
  (afterStart stop.toList.reverse s.toList.reverse).map fun cs => String.ofList cs.reverse

/-- A text begins with another. -/
def hasStart (start s : String) : Bool :=
  start.toList.isPrefixOf s.toList

/-- A text occurs inside another. -/
def occursIn (needle : List Char) : List Char → Bool
  | [] => needle.isEmpty
  | c :: rest => needle.isPrefixOf (c :: rest) || occursIn needle rest

/-- Replaces every occurrence of one character by a text. -/
def replaceChar (old : Char) (new : List Char) (cs : List Char) : List Char :=
  cs.flatMap fun c => if c = old then new else [c]

/-- The number of bytes of a list of characters in UTF-8. -/
def byteCount (cs : List Char) : Nat :=
  cs.foldr (fun c n => c.utf8Size + n) 0

/-- The longest beginning of at most `limit` bytes, and one replacement character for every
byte of a character that the limit divides. -/
def firstBytes : Nat → List Char → List Char
  | _, [] => []
  | limit, c :: rest =>
    if c.utf8Size ≤ limit then c :: firstBytes (limit - c.utf8Size) rest
    else List.replicate limit '\uFFFD'

/-- The order of texts by code point, which is also the order of their UTF-8 bytes. -/
def le (a b : String) : Bool := !decide (b < a)

/-- Texts in increasing order; repetitions stay. -/
def sort (texts : List String) : List String := texts.mergeSort le

/-- A text repeated. -/
def repeated (n : Nat) (s : String) : String :=
  String.join (List.replicate n s)

/-- Texts joined by a separator. -/
def joinWith (sep : String) (texts : List String) : String :=
  sep.intercalate texts

end ApiCompiler.Text
