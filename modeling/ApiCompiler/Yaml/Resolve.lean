import ApiCompiler.Error
import ApiCompiler.Text.Base64
import ApiCompiler.Text.Numeral
import ApiCompiler.Value

/-!
# The meaning of plain scalars

A scalar without quotes and without a tag is a null, a truth value, a number, a timestamp or
a text, by the way it is written. A tag may only confirm what the text says, with three
exceptions: any text is a string, a whole number may be read as a float, and the text of
binary data is decoded.
-/

namespace ApiCompiler.Yaml

open Decimal Text

/-- The short names of the standard tags. -/
def nullTag : String := "!!null"
def boolTag : String := "!!bool"
def strTag : String := "!!str"
def intTag : String := "!!int"
def floatTag : String := "!!float"
def timestampTag : String := "!!timestamp"
def seqTag : String := "!!seq"
def mapTag : String := "!!map"
def binaryTag : String := "!!binary"
def mergeTag : String := "!!merge"

/-- The beginning of the long names of standard tags. -/
def longTagStart : String := "tag:yaml.org,2002:"

/-- The short name of a tag. -/
def shortTag (tag : String) : String :=
  match dropStart? longTagStart tag with
  | some rest => "!!" ++ rest
  | none => tag

/-- The texts with a fixed meaning. -/
def fixedMeaning? (text : String) : Option (String × Value) :=
  if ["true", "True", "TRUE"].contains text then some (boolTag, .bool true)
  else if ["false", "False", "FALSE"].contains text then some (boolTag, .bool false)
  else if ["", "~", "null", "Null", "NULL"].contains text then some (nullTag, .null)
  else if [".nan", ".NaN", ".NAN"].contains text then some (floatTag, .float Double.nan)
  else if [".inf", ".Inf", ".INF", "+.inf", "+.Inf", "+.INF"].contains text then
    some (floatTag, .float (Double.infinity false))
  else if ["-.inf", "-.Inf", "-.INF"].contains text then
    some (floatTag, .float (Double.infinity true))
  else none

/-- Digits, and what follows them. -/
def spanDigits (cs : List Char) : List Char × List Char :=
  (cs.takeWhile Char.isDigit, cs.dropWhile Char.isDigit)

/-- The exponent at the end of a decimal: nothing, or `e` with an optional sign and digits. -/
def exponent? : List Char → Option Int
  | [] => some 0
  | mark :: rest =>
    if mark == 'e' || mark == 'E' then
      let (negative, digits) := cutSign rest
      (numeral? 10 digits).map fun n => if negative then -(n : Int) else n
    else none

/-- A decimal with an optional sign, point and exponent; numbers beyond the greatest double
have no meaning. -/
def decimal? (cs : List Char) : Option Double := do
  let (negative, cs) := cutSign cs
  let (whole, rest) := spanDigits cs
  let (fraction, rest) := match rest with
    | '.' :: rest => spanDigits rest
    | rest => ([], rest)
  guard (!whole.isEmpty || !fraction.isEmpty)
  let exponent ← exponent? rest
  let digits ← numeral? 10 (whole ++ fraction)
  let d := Double.ofDecimal negative digits (exponent - fraction.length)
  guard d.isFinite
  return d

/-- Every underscore stands between two digits. -/
def underscoresSeparate : Option Char → List Char → Bool
  | _, [] => true
  | before, '_' :: rest =>
    before.any Char.isDigit && rest.head?.any Char.isDigit && underscoresSeparate (some '_') rest
  | _, c :: rest => underscoresSeparate (some c) rest

/-- A text that begins with a point as a number. -/
def pointNumber? (cs : List Char) : Option Double :=
  if underscoresSeparate none cs then decimal? (cs.filter (· != '_')) else none

/-- A number behind a mark of its base, with an optional sign on either side of the mark,
but not on both. -/
def markedInt? (cs : List Char) : Option Int :=
  match cs with
  | '0' :: 'b' :: rest => (signed64? (numeral? 2) rest).or (unsigned64? (numeral? 2) rest)
  | '-' :: '0' :: 'b' :: rest => signed64? (numeral? 2) ('-' :: rest)
  | '0' :: 'o' :: rest => (signed64? (numeral? 8) rest).or (unsigned64? (numeral? 8) rest)
  | '-' :: '0' :: 'o' :: rest => signed64? (numeral? 8) ('-' :: rest)
  | _ => none

/-- A text that begins with a digit or a sign as a number. Underscores do not count. -/
def number? (text : String) : Option (String × Value) :=
  let plain := text.toList.filter (· != '_')
  match (signed64? prefixedNumeral? plain).or (unsigned64? prefixedNumeral? plain) with
  | some i => some (intTag, .int i)
  | none =>
    match decimal? plain with
    | some d => some (floatTag, .float d)
    | none => (markedInt? plain).map fun i => (intTag, .int i)

/-- The meaning of a plain text. Timestamps are considered unless another tag is given. -/
def meaning (timestamps : Bool) (text : String) : String × Value :=
  match fixedMeaning? text with
  | some m => m
  | none =>
    match text.toList.head? with
    | some '.' =>
      match pointNumber? text.toList with
      | some d => (floatTag, .float d)
      | none => (strTag, .str text)
    | some c =>
      if c.isDigit || c == '+' || c == '-' then
        match (if timestamps then Timestamp.parse? text else none) with
        | some t => (timestampTag, .time t)
        | none => (number? text).getD (strTag, .str text)
      else (strTag, .str text)
    | none => (strTag, .str text)

/-- The tag of a text without a tag. -/
def impliedTag (text : String) : String := (meaning true text).1

/-- The tags that a text can contradict. -/
def checkedTags : List String := [boolTag, intTag, floatTag, nullTag, timestampTag]

/-- The value of a text with a tag. A text that contradicts its tag is malformed. -/
def resolve (tag text : String) : Except Error (String × Value) :=
  if tag == strTag then .ok (strTag, .str text)
  else if tag == binaryTag then
    match Base64.decodeText? text with
    | some decoded => .ok (binaryTag, .str decoded.shown)
    | none => .error (.yaml .malformed)
  else if !checkedTags.contains tag then .ok (tag, .str text)
  else
    let (found, value) := meaning (tag == timestampTag) text
    if found == tag then .ok (tag, value)
    else
      match value with
      | .int i =>
        if tag == floatTag && i < twoTo 63 then .ok (floatTag, .float (Double.ofInt i))
        else .error (.yaml .malformed)
      | _ => .error (.yaml .malformed)

end ApiCompiler.Yaml
