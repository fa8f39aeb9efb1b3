import ApiCompiler.Decimal.Shortest

/-!
# Timestamps

A date and a time of day with a distance from UTC, its reading from text, and its two
written forms.
-/

namespace ApiCompiler

open Decimal

/-- A date and a time of day; the offset is in minutes east of UTC. -/
structure Timestamp where
  year : Nat
  month : Nat
  day : Nat
  hour : Nat
  minute : Nat
  second : Nat
  nanosecond : Nat
  offset : Int
deriving DecidableEq, Repr

namespace Timestamp

/-- A year with a twenty-ninth of February. -/
def isLeap (year : Nat) : Bool :=
  year % 4 == 0 && (year % 100 != 0 || year % 400 == 0)

/-- The number of days of a month. -/
def daysIn (year month : Nat) : Nat :=
  if month == 2 then (if isLeap year then 29 else 28)
  else if [4, 6, 9, 11].contains month then 30 else 31

/-- The fraction of a second behind a point, without zeros at its end; nothing for zero. -/
def fraction (t : Timestamp) : List Char :=
  if t.nanosecond == 0 then []
  else '.' :: ((padded 9 t.nanosecond).reverse.dropWhile (· == '0')).reverse

/-- Year, month and day. -/
def dateText (t : Timestamp) : List Char :=
  padded 4 t.year ++ '-' :: padded 2 t.month ++ '-' :: padded 2 t.day

/-- Hour, minute and second, with the fraction. -/
def clockText (t : Timestamp) : List Char :=
  padded 2 t.hour ++ ':' :: padded 2 t.minute ++ ':' :: padded 2 t.second ++ t.fraction

/-- The sign of the offset, and its hours and minutes with a separator between. -/
def offsetText (t : Timestamp) (sep : List Char) : List Char :=
  (if t.offset < 0 then '-' else '+') :: padded 2 (t.offset.natAbs / 60) ++ sep ++
    padded 2 (t.offset.natAbs % 60)

/-- The form of documents: `2001-01-02T03:04:05Z`. -/
def documentText (t : Timestamp) : String :=
  String.ofList (t.dateText ++ 'T' :: t.clockText ++
    (if t.offset == 0 then ['Z'] else t.offsetText [':']))

/-- The form for people: `2001-01-02 03:04:05 +0000 UTC`. -/
def displayText (t : Timestamp) : String :=
  String.ofList (t.dateText ++ ' ' :: t.clockText ++ ' ' :: t.offsetText [] ++ ' ' ::
    (if t.offset == 0 then ['U', 'T', 'C'] else t.offsetText []))

/-- The days before the beginning of a year, counted from the year zero. -/
def daysBefore (year : Nat) : Nat :=
  365 * year + (year + 3) / 4 - (year + 99) / 100 + (year + 399) / 400

/-- The seconds from the beginning of the year zero in UTC to the whole second of a timestamp. -/
def seconds (t : Timestamp) : Int :=
  let months := (List.range (t.month - 1)).foldl (fun n m => n + daysIn t.year (m + 1)) 0
  let days := daysBefore t.year + months + (t.day - 1)
  (((days * 24 + t.hour) * 60 + t.minute) * 60 + t.second : Nat) - t.offset * 60

/-- The order of keys: by the fraction of the second first, then by the second. -/
def keyLe (t u : Timestamp) : Bool :=
  t.nanosecond < u.nanosecond || (t.nanosecond == u.nanosecond && t.seconds ≤ u.seconds)

/-- The form of documents exists: the offset is less than a day. -/
def isDocumentable (t : Timestamp) : Bool := t.offset.natAbs < 24 * 60

/-- The number that decimal digits write. -/
def number (digits : List Char) : Nat :=
  digits.foldl (fun n c => n * 10 + (c.toNat - 0x30)) 0

/-- A number of one or two digits. -/
def readShort : List Char → Option (Nat × List Char)
  | a :: b :: rest =>
    if a.isDigit && b.isDigit then some (number [a, b], rest)
    else if a.isDigit then some (number [a], b :: rest)
    else none
  | [a] => if a.isDigit then some (number [a], []) else none
  | [] => none

/-- A number of exactly two digits. -/
def readPair : List Char → Option (Nat × List Char)
  | a :: b :: rest => if a.isDigit && b.isDigit then some (number [a, b], rest) else none
  | _ => none

/-- A given character. -/
def readMark (c : Char) : List Char → Option (List Char)
  | d :: rest => if d = c then some rest else none
  | [] => none

/-- A fraction of a second, if there is one; digits behind the ninth do not count. -/
def readFraction : List Char → Nat × List Char
  | mark :: d :: rest =>
    if (mark == '.' || mark == ',') && d.isDigit then
      let digits := (d :: rest).takeWhile Char.isDigit
      let kept := digits.take 9
      (number kept * tenTo (9 - kept.length), (d :: rest).dropWhile Char.isDigit)
    else (0, mark :: d :: rest)
  | cs => (0, cs)

/-- Hour, minute, second and fraction. -/
def readClock (cs : List Char) : Option ((Nat × Nat × Nat × Nat) × List Char) := do
  let (hour, cs) ← readShort cs
  let cs ← readMark ':' cs
  let (minute, cs) ← readShort cs
  let cs ← readMark ':' cs
  let (second, cs) ← readShort cs
  let (nanosecond, cs) := readFraction cs
  if hour < 24 && minute < 60 && second < 60 then some ((hour, minute, second, nanosecond), cs)
  else none

/-- The offset from UTC, which ends the text. -/
def readOffset : List Char → Option Int
  | ['Z'] => some 0
  | sign :: rest => do
    guard (sign == '+' || sign == '-')
    let (hours, rest) ← readPair rest
    let rest ← readMark ':' rest
    let (minutes, rest) ← readPair rest
    guard (rest.isEmpty && hours ≤ 24 && minutes ≤ 60)
    let size : Int := hours * 60 + minutes
    return if sign == '-' then -size else size
  | [] => none

/-- Year, month and day. -/
def readDate (cs : List Char) : Option ((Nat × Nat × Nat) × List Char) := do
  let year := cs.take 4
  guard (year.length == 4 && year.all Char.isDigit)
  let cs ← readMark '-' (cs.drop 4)
  let (month, cs) ← readShort cs
  let cs ← readMark '-' cs
  let (day, cs) ← readShort cs
  guard (1 ≤ month && month ≤ 12 && 1 ≤ day && day ≤ daysIn (number year) month)
  return ((number year, month, day), cs)

/-- Reads a timestamp: a date, or a date and a time of day behind blanks, or one with an
offset behind `T` or `t`. -/
def parse? (s : String) : Option Timestamp := do
  let ((year, month, day), cs) ← readDate s.toList
  match cs with
  | [] => return ⟨year, month, day, 0, 0, 0, 0, 0⟩
  | mark :: rest =>
    let clock := if mark == ' ' then rest.dropWhile (· == ' ') else rest
    let ((hour, minute, second, nanosecond), rest) ← readClock clock
    if mark == 'T' || mark == 't' then
      let offset ← readOffset rest
      return ⟨year, month, day, hour, minute, second, nanosecond, offset⟩
    else
      guard (mark == ' ' && rest.isEmpty)
      return ⟨year, month, day, hour, minute, second, nanosecond, 0⟩

end Timestamp

end ApiCompiler
