import ApiCompiler.Target.Go.Generate
import Mathlib.Algebra.Group.Nat.Defs
import Mathlib.Data.List.Forall2

/-!
# Reading calls

A reader for the part of Go that descriptions are written in: names, quoted texts,
members and calls. A line is cut into tokens by a scanner with a few modes, and
tokens are put together by a machine with a stack of open calls. Both work from left to
right, so what they do with a text follows from what they do with its parts.
-/

namespace ApiCompiler.Go.Script

open Text

/-! ## Tokens -/

/-- A token: a name, a quoted text by its value, or a mark. -/
inductive Token where
  | name (s : String)
  | text (s : String)
  | mark (c : Char)
deriving DecidableEq, Repr

/-- Where the scanner stands. In a quoted text it holds the value read so far, behind a
backslash and inside a code point too; of a code point it knows the digits that are
missing and the limit of its value. -/
inductive Mode where
  | gap
  | word (cs : List Char)
  | text (cs : List Char)
  | escape (cs : List Char)
  | code (cs : List Char) (missing limit value : Nat)
deriving DecidableEq, Repr

/-- The marks besides quotes. -/
def marks : List Char := ['.', ',', '(', ')', ':', '=']

/-- The letters that stand for characters behind a backslash. -/
def letters : List (Char × Char) :=
  [('"', '"'), ('\\', '\\'), ('a', '\x07'), ('b', '\x08'), ('f', '\x0c'), ('n', '\n'), ('r', '\r'),
    ('t', '\t'), ('v', '\x0b')]

/-- The value of a hexadecimal digit. -/
def hexValue? (c : Char) : Option Nat :=
  if '0' ≤ c ∧ c ≤ '9' then some (c.toNat - 0x30)
  else if 'a' ≤ c ∧ c ≤ 'f' then some (c.toNat - 0x57)
  else none

/-- A character between tokens: the tokens it completes, and the mode behind it. -/
def enter (c : Char) : Option (List Token × Mode) :=
  if c = ' ' then some ([], .gap)
  else if c = '"' then some ([], .text [])
  else if isIdentifierStart c then some ([], .word [c])
  else if c ∈ marks then some ([.mark c], .gap)
  else none

/-- A character behind a backslash. -/
def unescape (cs : List Char) (c : Char) : Option Mode :=
  match letters.lookup c with
  | some d => some (.text (cs ++ [d]))
  | none =>
    if c = 'x' then some (.code cs 2 0x80 0)
    else if c = 'u' then some (.code cs 4 0x10000 0)
    else if c = 'U' then some (.code cs 8 0x110000 0)
    else none

/-- A digit of a code point. The last one completes a character. -/
def decode (cs : List Char) (missing limit value : Nat) (c : Char) : Option Mode :=
  (hexValue? c).bind fun digit =>
    let value := value * 16 + digit
    if 1 < missing then some (.code cs (missing - 1) limit value)
    else if value < limit ∧ value.isValidChar then some (.text (cs ++ [Char.ofNat value]))
    else none

/-- One character: the tokens it completes, and the mode behind it. -/
def step : Mode → Char → Option (List Token × Mode)
  | .gap, c => enter c
  | .word cs, c =>
    if isIdentifierChar c then some ([], .word (cs ++ [c]))
    else (enter c).map fun (ts, m) => (.name (String.ofList cs) :: ts, m)
  | .text cs, c =>
    if c = '"' then some ([.text (String.ofList cs)], .gap)
    else if c = '\\' then some ([], .escape cs)
    else if c = '\n' then none
    else some ([], .text (cs ++ [c]))
  | .escape cs, c => (unescape cs c).map fun m => ([], m)
  | .code cs missing limit value, c =>
    (decode cs missing limit value c).map fun m => ([], m)

/-- Some characters: the tokens they complete, and the mode behind them. -/
def run : Mode → List Char → Option (List Token × Mode)
  | m, [] => some ([], m)
  | m, c :: cs => (step m c).bind fun (ts, next) =>
    (run next cs).map fun (more, last) => (ts ++ more, last)

/-- The token that the end of a line completes, if it may stand there. -/
def Mode.finish : Mode → Option (List Token)
  | .gap => some []
  | .word cs => some [.name (String.ofList cs)]
  | _ => none

/-- The tokens of a line. -/
def scan (cs : List Char) : Option (List Token) :=
  (run .gap cs).bind fun (ts, m) => m.finish.map fun last => ts ++ last

theorem run_nil (m : Mode) : run m [] = some ([], m) :=
  rfl

theorem run_cons_eq_some {m next last : Mode} {c : Char} {cs : List Char} {ts us : List Token}
    (first : step m c = some (ts, next)) (others : run next cs = some (us, last)) :
    run m (c :: cs) = some (ts ++ us, last) := by
  simp [run, first, others]

/-- A character that completes no token. -/
theorem run_cons_of_silent {m next : Mode} {c : Char} {cs : List Char} {r : List Token × Mode}
    (first : step m c = some ([], next)) (others : run next cs = some r) :
    run m (c :: cs) = some r :=
  run_cons_eq_some first others

theorem run_append_eq_some {m next last : Mode} {cs ds : List Char} {ts us : List Token}
    (first : run m cs = some (ts, next)) (second : run next ds = some (us, last)) :
    run m (cs ++ ds) = some (ts ++ us, last) := by
  induction cs generalizing m ts with
  | nil =>
      cases first
      exact second
  | cons c cs ih =>
      obtain ⟨⟨now, behind⟩, stepped, others⟩ := Option.bind_eq_some_iff.mp first
      obtain ⟨⟨more, final⟩, ran, same⟩ := Option.map_eq_some_iff.mp others
      obtain ⟨rfl, rfl⟩ := Prod.mk.inj same
      rw [List.cons_append, run_cons_eq_some stepped (ih ran), List.append_assoc]

/-! ## Quoted texts -/

theorem hexValue?_hexDigit {n : Nat} (small : n < 16) : hexValue? (hexDigit n) = some n := by
  decide +revert

/-- One more digit behind some digits. -/
theorem sum_hexDigits (width n : Nat) :
    n / 16 % 16 ^ width * 16 + n % 16 = n % 16 ^ (width + 1) := by
  rw [Nat.pow_succ, Nat.mul_comm (16 ^ width) 16, Nat.mod_mul]
  omega

/-- The digits in front of the last one are not too few. -/
theorem div_mod_of_fits {width n : Nat} (fits : n < 16 ^ (width + 1)) :
    n / 16 % 16 ^ width = n / 16 := by
  apply Nat.mod_eq_of_lt
  apply Nat.div_lt_of_lt_mul
  rw [Nat.pow_succ, Nat.mul_comm] at fits
  exact fits

/-- A digit in front of the last one. -/
theorem step_hexDigit (cs : List Char) (missing limit value : Nat) {digit : Nat}
    (small : digit < 16) :
    step (.code cs (missing + 2) limit value) (hexDigit digit) =
      some ([], .code cs (missing + 1) limit (value * 16 + digit)) := by
  rw [step, decode, hexValue?_hexDigit small, Option.bind_some, if_pos (by omega)]
  rfl

/-- The digits of a code point add up to their value. -/
theorem run_hexDigits (cs : List Char) (limit missing width n : Nat) :
    run (.code cs (missing + width + 1) limit 0) (hexDigits width n) =
      some ([], .code cs (missing + 1) limit (n % 16 ^ width)) := by
  induction width generalizing n missing with
  | zero => simp [hexDigits, run, Nat.mod_one]
  | succ width ih =>
      have before := ih (missing + 1) (n / 16)
      have last := step_hexDigit cs missing limit (n / 16 % 16 ^ width)
        (Nat.mod_lt n (by decide : 0 < 16))
      rw [Nat.add_right_comm missing 1 width] at before
      rw [sum_hexDigits] at last
      exact run_append_eq_some before (run_cons_of_silent last (run_nil _))

/-- The digits of a character are read as the character. -/
theorem run_code {c : Char} {limit width : Nat} (cs : List Char) (below : c.toNat < limit)
    (fits : c.toNat < 16 ^ (width + 1)) :
    run (.code cs (width + 1) limit 0) (hexDigits (width + 1) c.toNat) =
      some ([], .text (cs ++ [c])) := by
  have before := run_hexDigits cs limit 0 width (c.toNat / 16)
  have sum : c.toNat / 16 * 16 + c.toNat % 16 = c.toNat := Nat.div_add_mod' c.toNat 16
  have last : step (.code cs 1 limit (c.toNat / 16)) (hexDigit (c.toNat % 16)) =
      some ([], .text (cs ++ [c])) := by
    rw [step, decode, hexValue?_hexDigit (Nat.mod_lt _ (by decide)), Option.bind_some,
      if_neg (by decide)]
    simp only [sum]
    rw [if_pos ⟨below, c.valid⟩, Char.ofNat_toNat]
    rfl
  rw [Nat.zero_add, div_mod_of_fits fits] at before
  exact run_append_eq_some before (run_cons_of_silent last (run_nil _))

theorem step_text_of_isPrintable {c : Char} (cs : List Char) (quote : c ≠ '"')
    (backslash : c ≠ '\\') (printable : isPrintable c = true) :
    step (.text cs) c = some ([], .text (cs ++ [c])) := by
  have line : c ≠ '\n' := by
    rintro rfl
    exact absurd printable (by decide)
  rw [step, if_neg quote, if_neg backslash, if_neg line]

theorem lookup_letters {letter c : Char} (found : Quoted.letters.lookup c = some letter) :
    letters.lookup letter = some c := by
  have inverse : ∀ p ∈ Quoted.letters, letters.lookup p.2 = some p.1 := by decide
  obtain ⟨before, after, split, -⟩ := List.lookup_eq_some_iff.mp found
  exact inverse (c, letter) (split ▸ List.mem_append_right before List.mem_cons_self)

theorem run_backslash {c : Char} {ds : List Char} {next : Mode} {r : List Token × Mode}
    (cs : List Char) (opens : unescape cs c = some next) (others : run next ds = some r) :
    run (.text cs) ('\\' :: c :: ds) = some r := by
  have backslash : step (.text cs) '\\' = some ([], .escape cs) := rfl
  have second : step (.escape cs) c = some ([], next) := by
    rw [step, opens]
    rfl
  exact run_cons_of_silent backslash (run_cons_of_silent second others)

theorem run_letter {letter d : Char} (cs : List Char) (found : letters.lookup letter = some d) :
    run (.text cs) ['\\', letter] = some ([], .text (cs ++ [d])) := by
  refine run_backslash cs ?_ (run_nil _)
  rw [unescape, found]

theorem toNat_lt (c : Char) : c.toNat < 0x110000 := by
  rcases c.valid with low | high
  · exact Nat.lt_trans low (by decide)
  · exact high.2

theorem run_codePoint (cs : List Char) (c : Char) :
    run (.text cs) (Quoted.codePoint c) = some ([], .text (cs ++ [c])) := by
  unfold Quoted.codePoint
  split
  · rename_i ascii
    exact run_backslash cs rfl (run_code cs ascii (Nat.lt_trans ascii (by decide)))
  · split
    · rename_i plane
      exact run_backslash cs rfl (run_code cs plane plane)
    · exact run_backslash cs rfl (run_code cs (toNat_lt c) (Nat.lt_trans (toNat_lt c) (by decide)))

/-- An escaped character is read as the character. -/
theorem run_escape (cs : List Char) (c : Char) :
    run (.text cs) (Quoted.escape c) = some ([], .text (cs ++ [c])) := by
  rw [Quoted.escape]
  by_cases special : c = '"' ∨ c = '\\'
  · rw [if_pos special]
    rcases special with rfl | rfl
    · exact run_letter cs rfl
    · exact run_letter cs rfl
  · rw [if_neg special]
    obtain ⟨quote, backslash⟩ := not_or.mp special
    by_cases printable : isPrintable c = true
    · rw [if_pos printable]
      exact run_cons_of_silent (step_text_of_isPrintable cs quote backslash printable) (run_nil _)
    · rw [if_neg printable]
      cases found : Quoted.letters.lookup c with
      | none => exact run_codePoint cs c
      | some letter => exact run_letter cs (lookup_letters found)

theorem run_encode (cs ds : List Char) :
    run (.text cs) (Quoted.encode ds) = some ([], .text (cs ++ ds)) := by
  induction ds generalizing cs with
  | nil => simp [Quoted.encode, run]
  | cons d ds ih =>
      have more := run_append_eq_some (run_escape cs d) (ih (cs ++ [d]))
      rw [List.append_assoc] at more
      exact more

/-! ## Lines -/

theorem scan_eq_some_iff {cs : List Char} {ts : List Token} :
    scan cs = some ts ↔
      ∃ front m last, run .gap cs = some (front, m) ∧ m.finish = some last ∧
        ts = front ++ last := by
  simp only [scan, Option.bind_eq_some_iff, Option.map_eq_some_iff, Prod.exists,
    exists_and_left, eq_comm (b := ts)]

theorem scan_nil : scan [] = some [] :=
  rfl

theorem scan_quote (s : String) : scan (quote s).toList = some [.text s] := by
  rw [scan_eq_some_iff]
  refine ⟨[.text s], .gap, [], ?_, rfl, rfl⟩
  have opening : step .gap '"' = some ([], .text []) := rfl
  have closing : step (.text s.toList) '"' = some ([.text s], .gap) := by
    rw [step, if_pos rfl, String.ofList_toList]
  rw [quote, String.toList_ofList]
  exact run_cons_of_silent opening
    (run_append_eq_some (run_encode [] s.toList) (run_cons_eq_some closing (run_nil _)))

/-- A character that ends whatever stands in front of it. -/
def Separates (c : Char) (ts : List Token) : Prop :=
  isIdentifierChar c = false ∧ enter c = some (ts, .gap)

theorem step_of_separates {c : Char} {ts last : List Token} {m : Mode}
    (separates : Separates c ts) (finished : m.finish = some last) :
    step m c = some (last ++ ts, .gap) := by
  cases m with
  | gap =>
      cases finished
      exact separates.2
  | word cs =>
      cases finished
      rw [step, separates.1, separates.2]
      rfl
  | text cs => exact nomatch finished
  | escape cs => exact nomatch finished
  | code cs missing limit value => exact nomatch finished

/-- What stands on both sides of a separator is scanned by itself. -/
theorem scan_join {a b : List Char} {c : Char} {ts us vs : List Token}
    (left : scan a = some ts) (separates : Separates c us) (right : scan b = some vs) :
    scan (a ++ c :: b) = some (ts ++ us ++ vs) := by
  obtain ⟨front, m, last, ran, finished, rfl⟩ := scan_eq_some_iff.mp left
  obtain ⟨front', m', last', ran', finished', rfl⟩ := scan_eq_some_iff.mp right
  refine scan_eq_some_iff.mpr ⟨_, m', last', run_append_eq_some ran
    (run_cons_eq_some (step_of_separates separates finished) ran'), finished', ?_⟩
  simp only [List.append_assoc]

theorem separates_mark {c : Char} (mark : c ∈ marks) : Separates c [.mark c] := by
  simp only [marks, List.mem_cons, List.not_mem_nil, or_false] at mark
  rcases mark with rfl | rfl | rfl | rfl | rfl | rfl <;> exact ⟨rfl, rfl⟩

theorem separates_blank : Separates ' ' [] :=
  ⟨rfl, rfl⟩

/-! ## Expressions -/

/-- An expression. -/
inductive Expr where
  | text (s : String)
  | name (s : String)
  | member (e : Expr) (field : String)
  | call (function : Expr) (args : List Expr)
deriving Repr

namespace Expr

mutual

/-- The tokens of an expression. -/
def tokens : Expr → List Token
  | text s => [.text s]
  | name s => [.name s]
  | member e field => e.tokens ++ [.mark '.', .name field]
  | call function args => function.tokens ++ .mark '(' :: (tokensOf args ++ [.mark ')'])

/-- The tokens of arguments. -/
def tokensOf : List Expr → List Token
  | [] => []
  | [e] => e.tokens
  | e :: next :: rest => e.tokens ++ .mark ',' :: tokensOf (next :: rest)

end

end Expr

/-- What was read of the innermost open call, or of the whole expression. -/
inductive Focus where
  | empty
  | whole (e : Expr)
  | dotted (e : Expr)

/-- An expression that is being read: the calls that are still open, innermost first, each
with its function and the arguments in front, and what was read behind them. -/
structure Reader where
  focus : Focus
  calls : List (Expr × List Expr)

/-- One token of an expression. -/
def Reader.step : Reader → Token → Option Reader
  | ⟨.empty, calls⟩, .name s => some ⟨.whole (.name s), calls⟩
  | ⟨.dotted e, calls⟩, .name s => some ⟨.whole (.member e s), calls⟩
  | ⟨.empty, calls⟩, .text s => some ⟨.whole (.text s), calls⟩
  | ⟨.whole e, calls⟩, .mark '.' => some ⟨.dotted e, calls⟩
  | ⟨.whole e, calls⟩, .mark '(' => some ⟨.empty, (e, []) :: calls⟩
  | ⟨.whole e, (f, args) :: calls⟩, .mark ',' => some ⟨.empty, (f, args ++ [e]) :: calls⟩
  | ⟨.whole e, (f, args) :: calls⟩, .mark ')' => some ⟨.whole (.call f (args ++ [e])), calls⟩
  | ⟨.empty, (f, []) :: calls⟩, .mark ')' => some ⟨.whole (.call f []), calls⟩
  | _, _ => none

/-- Some tokens of an expression. -/
def Reader.run : Reader → List Token → Option Reader
  | r, [] => some r
  | r, t :: ts => (r.step t).bind fun next => next.run ts

/-- An expression from all its tokens. -/
def Expr.read (ts : List Token) : Option Expr :=
  match Reader.run ⟨.empty, []⟩ ts with
  | some ⟨.whole e, []⟩ => some e
  | _ => none

namespace Reader

theorem run_append (r : Reader) (ts us : List Token) :
    r.run (ts ++ us) = (r.run ts).bind fun next => next.run us := by
  induction ts generalizing r with
  | nil => rfl
  | cons t ts ih =>
      simp only [List.cons_append, run, ih, Option.bind_assoc]

mutual

/-- The tokens of an expression put it together, in front of whatever is open. -/
theorem run_tokens (calls : List (Expr × List Expr)) :
    (e : Expr) → run ⟨.empty, calls⟩ e.tokens = some ⟨.whole e, calls⟩
  | .text s => by rw [Expr.tokens]; rfl
  | .name s => by rw [Expr.tokens]; rfl
  | .member e field => by
      rw [Expr.tokens, run_append, run_tokens calls e]
      rfl
  | .call f args => by
      rw [Expr.tokens, run_append, run_tokens calls f, Option.bind_some]
      exact run_arguments f [] calls args (.inr rfl)

/-- The tokens of arguments complete the call that is open. -/
theorem run_arguments (f : Expr) (before : List Expr) (calls : List (Expr × List Expr)) :
    (args : List Expr) → args ≠ [] ∨ before = [] →
      run ⟨.empty, (f, before) :: calls⟩ (Expr.tokensOf args ++ [.mark ')']) =
        some ⟨.whole (.call f (before ++ args)), calls⟩
  | [], start => by
      have first : before = [] := start.resolve_left fun more => more rfl
      rw [first, Expr.tokensOf]
      rfl
  | [e], _ => by
      rw [Expr.tokensOf, run_append, run_tokens _ e]
      rfl
  | e :: e' :: rest, _ => by
      have others :=
        run_arguments f (before ++ [e]) calls (e' :: rest) (.inl (List.cons_ne_nil _ _))
      rw [List.append_assoc] at others
      rw [Expr.tokensOf, List.append_assoc, run_append, run_tokens _ e]
      exact others

end

end Reader

theorem Expr.read_tokens (e : Expr) : read e.tokens = some e := by
  rw [read, Reader.run_tokens]

/-! ## Statements -/

/-- A statement: a variable gets a value, an expression is evaluated, or its value is
returned. -/
inductive Statement where
  | define (name : String) (e : Expr)
  | evaluate (e : Expr)
  | give (e : Expr)
deriving Repr

/-- A statement from all its tokens. -/
def Statement.read : List Token → Option Statement
  | .name s :: .mark ':' :: .mark '=' :: ts => (Expr.read ts).map (.define s)
  | .name s :: ts =>
    if s = "return" then (Expr.read ts).map .give else (Expr.read (.name s :: ts)).map .evaluate
  | ts => (Expr.read ts).map .evaluate

/-- A token of which the end of a line ends the statement. -/
def Token.endsStatement : Token → Bool
  | .name _ | .text _ => true
  | .mark c => c == ')'

/-- The statements of some lines, behind the tokens of a statement that has not ended. -/
def statements : List Token → List BodyLine → Option (List Statement)
  | [], [] => some []
  | _ :: _, [] => none
  | front, l :: rest => (scan l.text.toList).bind fun ts =>
    if (front ++ ts).getLast?.any Token.endsStatement then
      (Statement.read (front ++ ts)).bind fun s => (statements [] rest).map (s :: ·)
    else statements (front ++ ts) rest

/-- The tokens of a call without its function's owner. -/
def callTokens (method : String) (args : List Expr) : List Token :=
  .name method :: .mark '(' :: (Expr.tokensOf args ++ [.mark ')'])

/-- Calls of methods in a chain, each on the value of the one before. -/
def Expr.chain (e : Expr) (calls : List (String × List Expr)) : Expr :=
  calls.foldl (fun e c => .call (.member e c.1) c.2) e

theorem Expr.tokens_chain (e : Expr) (calls : List (String × List Expr)) :
    (e.chain calls).tokens =
      e.tokens ++ calls.flatMap fun c => .mark '.' :: callTokens c.1 c.2 := by
  induction calls generalizing e with
  | nil => exact (List.append_nil _).symm
  | cons c calls ih =>
      change (Expr.chain (.call (.member e c.1) c.2) calls).tokens = _
      rw [ih, tokens, tokens, List.flatMap_cons, callTokens]
      simp only [List.append_assoc, List.cons_append, List.nil_append]

/-- A line that ends its statement. -/
theorem statements_cons_of_ends {front ts : List Token} {text : String} {depth : Nat}
    {rest : List BodyLine} (scanned : scan text.toList = some ts) {last : Token}
    (ends : last.endsStatement = true) (closes : (front ++ ts).getLast? = some last) :
    statements front (⟨depth, text⟩ :: rest) =
      (Statement.read (front ++ ts)).bind fun s => (statements [] rest).map (s :: ·) := by
  rw [statements, scanned, Option.bind_some, if_pos (by rw [closes]; exact ends)]

/-- A line whose statement goes on behind a point. -/
theorem statements_cons_of_point {front ts : List Token} {text : String} {depth : Nat}
    {rest : List BodyLine} (scanned : scan text.toList = some ts) :
    statements front (⟨depth, text ++ "."⟩ :: rest) =
      statements (front ++ (ts ++ [.mark '.'])) rest := by
  have line : scan (text ++ ".").toList = some (ts ++ [.mark '.']) := by
    rw [String.toList_append]
    have joined := scan_join scanned (separates_mark (c := '.') (by decide)) scan_nil
    rw [List.append_nil] at joined
    exact joined
  rw [statements, line, Option.bind_some, if_neg]
  rw [← List.append_assoc, List.getLast?_concat]
  decide

theorem getLast?_callTokens (front : List Token) (method : String) (args : List Expr) :
    (front ++ callTokens method args).getLast? = some (.mark ')') := by
  have last : front ++ callTokens method args =
      (front ++ .name method :: .mark '(' :: Expr.tokensOf args) ++ [.mark ')'] := by
    simp [callTokens]
  rw [last, List.getLast?_concat]

/-- Calls one to a line go on with the statement in front of them. -/
theorem statements_chained {call : String} {calls : List String} {c : String × List Expr}
    {cs : List (String × List Expr)} (first : scan call.toList = some (callTokens c.1 c.2))
    (others : List.Forall₂ (fun call c => scan call.toList = some (callTokens c.1 c.2)) calls cs)
    (front : List Token) (rest : List BodyLine) :
    statements (front ++ [.mark '.']) (chained (call :: calls) ++ rest) =
      (Statement.read
        (front ++ (c :: cs).flatMap fun c => .mark '.' :: callTokens c.1 c.2)).bind
        fun s => (statements [] rest).map (s :: ·) := by
  induction others generalizing call c front with
  | nil =>
      rw [chained, List.singleton_append,
        statements_cons_of_ends first rfl (getLast?_callTokens _ c.1 c.2)]
      simp
  | cons second _ ih =>
      rw [chained, List.cons_append, statements_cons_of_point first, ← List.append_assoc, ih second]
      · simp
      · exact List.cons_ne_nil _ _

/-- A call with more calls chained to it is one statement. -/
theorem statements_callChain {start : String} {calls : List String} {e : Expr}
    {cs : List (String × List Expr)} (opens : scan start.toList = some e.tokens)
    (closes : e.tokens.getLast? = some (.mark ')'))
    (each : List.Forall₂ (fun call c => scan call.toList = some (callTokens c.1 c.2)) calls cs)
    (rest : List BodyLine) :
    statements [] (callChain start calls ++ rest) =
      (Statement.read (e.chain cs).tokens).bind fun s => (statements [] rest).map (s :: ·) := by
  rw [Expr.tokens_chain]
  cases each with
  | nil =>
      rw [List.flatMap_nil, List.append_nil]
      exact statements_cons_of_ends opens rfl closes
  | cons first others =>
      refine Eq.trans ?_ (statements_chained first others e.tokens rest)
      exact statements_cons_of_point opens

end ApiCompiler.Go.Script
