/-!
# Blank characters

White space as Unicode defines it, the text without white space at its ends, and the
words that white space separates.
-/

namespace ApiCompiler.Text

/-- A character with the property White_Space. -/
def isBlank (c : Char) : Bool :=
  let n := c.toNat
  (0x9 ≤ n && n ≤ 0xD) || n == 0x20 || n == 0x85 || n == 0xA0 || n == 0x1680 ||
    (0x2000 ≤ n && n ≤ 0x200A) || n == 0x2028 || n == 0x2029 || n == 0x202F ||
    n == 0x205F || n == 0x3000

/-- Removes the characters of a class from the end of a list. -/
def dropEnd (p : Char → Bool) (cs : List Char) : List Char :=
  (cs.reverse.dropWhile p).reverse

/-- Removes the characters of a class from both ends of a list. -/
def trimBy (p : Char → Bool) (cs : List Char) : List Char :=
  dropEnd p (cs.dropWhile p)

/-- A text without the white space at its ends. -/
def trim (s : String) : String :=
  String.ofList (trimBy isBlank s.toList)

/-- A text that holds nothing but white space. -/
def isBlankText (s : String) : Bool :=
  s.toList.all isBlank

/-- The maximal runs of characters outside a class of separators. -/
def runs (sep : Char → Bool) : List Char → List (List Char)
  | [] => []
  | c :: rest =>
    if sep c then runs sep rest
    else
      match rest, runs sep rest with
      | d :: _, word :: words => if sep d then [c] :: word :: words else (c :: word) :: words
      | _, words => [c] :: words

/-- The words of a text: its maximal runs of characters that are not white space. -/
def words (s : String) : List String :=
  (runs isBlank s.toList).map String.ofList

end ApiCompiler.Text
