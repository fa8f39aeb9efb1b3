import ApiCompiler.Error

/-!
# Type references

A type reference is written as a name, or as a name with bracketed parameters separated by
commas: `User`, `list[Book]`, `map[string, set[Author]]`. This file holds the tree of a
reference, its canonical text, and the reader.

The reader cuts a reference at its top-level commas and reads each piece in turn, so a piece
is always shorter than the text it was cut from.
-/

namespace ApiCompiler

open Text

/-- A type reference: a name and, for a generic type, its parameters. No parameter list
differs from an empty one. -/
inductive Datatype where
  | mk (name : String) (params : Option (List Datatype))
deriving Inhabited, Repr, BEq

namespace Datatype

/-- The name of the type. -/
def name : Datatype → String
  | mk name _ => name

/-- The parameter list, if there is one. -/
def params? : Datatype → Option (List Datatype)
  | mk _ params => params

/-- The parameters; none without a parameter list. -/
def params (d : Datatype) : List Datatype := d.params?.getD []

/-- A type with a parameter list. -/
def isGeneric (d : Datatype) : Bool := d.params?.isSome

/-- A type with the given parameters, and without a list if there are none. -/
def ofParams (name : String) (params : List Datatype) : Datatype :=
  if params.isEmpty then mk name none else mk name (some params)

mutual

/-- The canonical text of a reference, e.g. `map[string, integer]`. -/
def render : Datatype → String
  | mk name none => name
  | mk name (some []) => name
  | mk name (some (first :: rest)) => name ++ "[" ++ first.render ++ renderRest rest ++ "]"

/-- The parameters after the first, each behind a comma. -/
def renderRest : List Datatype → String
  | [] => ""
  | d :: rest => ", " ++ d.render ++ renderRest rest

end

mutual

/-- Equality of two references: names, presence of a parameter list, and parameters. -/
def equal : Datatype → Datatype → Bool
  | mk n none, mk m none => n == m
  | mk n (some ps), mk m (some qs) => n == m && equalAll ps qs
  | _, _ => false

/-- Equality of two lists of references. -/
def equalAll : List Datatype → List Datatype → Bool
  | [], [] => true
  | d :: ds, e :: es => d.equal e && equalAll ds es
  | _, _ => false

end

mutual

/-- The reference and all parameters inside it, each before its own parameters. -/
def nodes : Datatype → List Datatype
  | mk name none => [mk name none]
  | mk name (some ps) => mk name (some ps) :: nodesOf ps

/-- The nodes of several references, in order. -/
def nodesOf : List Datatype → List Datatype
  | [] => []
  | d :: rest => d.nodes ++ nodesOf rest

end

/-- Puts a character in front of the first piece. -/
def ontoFirst (c : Char) : List (List Char) → List (List Char)
  | [] => [[c]]
  | piece :: pieces => (c :: piece) :: pieces

/-- The pieces of a parameter list between its top-level commas, read behind the opening
bracket. `depth` counts the brackets that are open inside the current piece. -/
def cutParams : Nat → List Char → Except DatatypeFlaw (List (List Char))
  | _, [] => .error .unbalanced
  | depth, c :: rest =>
    if c = '[' then (cutParams (depth + 1) rest).map (ontoFirst c)
    else if c = ']' then
      match depth with
      | 0 => if rest.isEmpty then .ok [[]] else .error .trailingText
      | depth + 1 => (cutParams depth rest).map (ontoFirst c)
    else if c = ',' && depth == 0 then (cutParams 0 rest).map ([] :: ·)
    else (cutParams depth rest).map (ontoFirst c)

/-- The name of a reference and the pieces of its parameter list, if it has one. -/
def cutReference (cs : List Char) :
    Except DatatypeFlaw (List Char × Option (List (List Char))) :=
  match cutAt '[' cs with
  | none =>
    if cs.contains ']' then .error .closingWithoutOpening
    else if cs.all isBlank then .error .emptyName
    else .ok (cs, none)
  | some (name, rest) =>
    if name.all isBlank then .error .emptyName
    else if name.contains ']' then .error .closingWithoutOpening
    else
      match cutParams 0 rest with
      | .error flaw => .error flaw
      | .ok pieces =>
        if pieces.any (·.all isBlank) then .error .emptyParameter else .ok (name, some pieces)

theorem length_le_of_mem_ontoFirst {c : Char} {pieces : List (List Char)} {n : Nat}
    (bound : ∀ p ∈ pieces, p.length ≤ n) {p : List Char} (mem : p ∈ ontoFirst c pieces) :
    p.length ≤ n + 1 := by
  cases pieces with
  | nil =>
    simp only [ontoFirst, List.mem_singleton] at mem
    subst mem
    simp
  | cons piece pieces =>
    simp only [ontoFirst, List.mem_cons] at mem
    rcases mem with rfl | mem
    · have := bound piece (by simp)
      simp only [List.length_cons]
      omega
    · have := bound p (by simp [mem])
      omega

/-- A piece of a parameter list is no longer than the list. -/
theorem length_le_of_cutParams {depth : Nat} {cs : List Char} {pieces : List (List Char)}
    (cut : cutParams depth cs = .ok pieces) : ∀ p ∈ pieces, p.length ≤ cs.length := by
  induction cs generalizing depth pieces with
  | nil => simp [cutParams] at cut
  | cons c rest ih =>
    have step {d : Nat} {out : List (List Char)}
        (eq : (cutParams d rest).map (ontoFirst c) = .ok out) :
        ∀ p ∈ out, p.length ≤ (c :: rest).length := by
      cases inner : cutParams d rest with
      | error flaw => simp [inner, Except.map] at eq
      | ok found =>
        rw [inner] at eq
        simp only [Except.map, Except.ok.injEq] at eq
        subst eq
        intro p mem
        exact length_le_of_mem_ontoFirst (ih inner) mem
    simp only [cutParams] at cut
    split at cut
    · exact step cut
    · split at cut
      · split at cut
        · split at cut
          · simp only [Except.ok.injEq] at cut
            subst cut
            simp
          · simp at cut
        · exact step cut
      · split at cut
        · cases inner : cutParams 0 rest with
          | error flaw => simp [inner, Except.map] at cut
          | ok found =>
            rw [inner] at cut
            simp only [Except.map, Except.ok.injEq] at cut
            subst cut
            intro p mem
            simp only [List.mem_cons] at mem
            rcases mem with rfl | mem
            · simp
            · have := ih inner p mem
              simp only [List.length_cons]
              omega
        · exact step cut

theorem length_lt_of_cutAt {sep : Char} {cs before after : List Char}
    (cut : cutAt sep cs = some (before, after)) : after.length < cs.length := by
  induction cs generalizing before after with
  | nil => simp [cutAt] at cut
  | cons c rest ih =>
    simp only [cutAt] at cut
    split at cut
    · simp only [Option.some.injEq, Prod.mk.injEq] at cut
      simp [← cut.2]
    · simp only [Option.map_eq_some_iff, Prod.mk.injEq, Prod.exists] at cut
      obtain ⟨b, a, inner, _, rfl⟩ := cut
      have := ih inner
      simp only [List.length_cons]
      omega

/-- A piece of the parameter list of a reference is shorter than the reference. -/
theorem length_lt_of_cutReference {cs name : List Char} {pieces : List (List Char)}
    (cut : cutReference cs = .ok (name, some pieces)) : ∀ p ∈ pieces, p.length < cs.length := by
  simp only [cutReference] at cut
  split at cut
  · split at cut
    · simp at cut
    · split at cut <;> simp at cut
  · rename_i before rest found
    split at cut
    · simp at cut
    · split at cut
      · simp at cut
      · split at cut
        · simp at cut
        · rename_i inner
          split at cut
          · simp at cut
          · simp only [Except.ok.injEq, Prod.mk.injEq, Option.some.injEq] at cut
            intro p mem
            rw [← cut.2] at mem
            have := length_le_of_cutParams inner p mem
            have := length_lt_of_cutAt found
            omega

theorem length_trimBy_le (p : Char → Bool) (cs : List Char) :
    (trimBy p cs).length ≤ cs.length := by
  simp only [trimBy, dropEnd, List.length_reverse]
  have first := (List.dropWhile_suffix (l := (cs.dropWhile p).reverse) p).length_le
  have second := (List.dropWhile_suffix (l := cs) p).length_le
  simp only [List.length_reverse] at first
  omega

/-- Reads a reference. White space around a parameter is dropped; the name of the whole
reference keeps it. -/
def ofChars (cs : List Char) : Except DatatypeFlaw Datatype :=
  match found : cutReference cs with
  | .error flaw => .error flaw
  | .ok (name, none) => .ok (mk (String.ofList name) none)
  | .ok (name, some pieces) => do
    let params ← pieces.attach.mapM fun ⟨piece, mem⟩ =>
      have : (trimBy isBlank piece).length < cs.length :=
        Nat.lt_of_le_of_lt (length_trimBy_le isBlank piece)
          (length_lt_of_cutReference found piece mem)
      ofChars (trimBy isBlank piece)
    return mk (String.ofList name) (some params)
termination_by cs.length

/-- Reads a type reference. A failure carries the complete text. -/
def parse (s : String) : Except Error Datatype :=
  match ofChars s.toList with
  | .ok d => .ok d
  | .error flaw => .error (.datatype s flaw)

end Datatype

end ApiCompiler
