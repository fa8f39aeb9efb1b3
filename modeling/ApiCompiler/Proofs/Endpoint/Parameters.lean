import ApiCompiler.Proofs.Casing
import ApiCompiler.Proofs.Convert.Footprint
import ApiCompiler.Proofs.Module.Valid
import ApiCompiler.Target.Go.Generate
import ApiCompiler.Target.TypeScript.Generate
import Mathlib.Data.List.Nodup

/-!
# Names of parameters in Go and TypeScript

A Go method has the parameter `ctx`, one for credentials if the endpoint needs them, and one for
each argument, whose name is put together from the words of the name of the argument. A TypeScript
method has the names of the arguments themselves. In both languages a name that is taken gets an
underscore, so that it is never a reserved word. Names of Go are distinct exactly if no two
arguments have the same first word up to case and the same other words, and identifiers exactly if
no first word begins with a digit. Names of TypeScript are distinct exactly if no argument is called
like the credentials, and none like another one with the underscore that it gets.
-/

namespace ApiCompiler

open Fallible Text

/-! ## Letters and digits -/

/-- What holds of every letter and digit of ASCII. -/
theorem Text.of_isAlphanum {P : Char → Prop}
    (each : ∀ n < 128, (Char.ofNat n).isAlphanum = true → P (Char.ofNat n)) {c : Char}
    (alphanum : c.isAlphanum = true) : P c := by
  have ascii : c.toNat < 0x80 := by
    delta Char.isAlphanum Char.isAlpha Char.isUpper Char.isLower Char.isDigit at alphanum
    simp [UInt32.le_iff_toNat_le] at alphanum
    omega
  exact of_ascii (P := fun c => c.isAlphanum = true → P c) each ascii alphanum

/-- A name that ends in an underscore is none of the words of which none ends in one. -/
theorem Text.concat_underscore_not_mem {words : List String}
    (plain : ∀ word ∈ words, word.toList.getLast? ≠ some '_') (name : String) :
    name ++ "_" ∉ words :=
  fun mem => plain _ mem (by simp)

/-- A name of letters, digits and underscores. -/
def IsPlainName (s : String) : Prop := ∀ c ∈ s.toList, c = '_' ∨ c.isAlphanum = true

instance (s : String) : Decidable (IsPlainName s) := List.decidableBAll _ _

namespace Go

/-- What Go makes of a letter or digit of ASCII. -/
structure IsPlainChar (c : Char) : Prop where
  lower : (toLower c).isAlphanum = true
  upper : (toUpper c).isAlphanum = true
  isUpper_lower : (toLower c).isUpper = false
  isUpper_upper : (toUpper c).isUpper = isLetter (toUpper c)
  isDigit_lower : (toLower c).isDigit = c.isDigit
  start : isIdentifierStart c = !c.isDigit
  inside : isIdentifierChar c = true

theorem isPlainChar_of_isAlphanum {c : Char} (alphanum : c.isAlphanum = true) : IsPlainChar c := by
  have each : ∀ n < 128, (Char.ofNat n).isAlphanum = true →
      let c := Char.ofNat n
      (toLower c).isAlphanum = true ∧ (toUpper c).isAlphanum = true ∧
        (toLower c).isUpper = false ∧ (toUpper c).isUpper = isLetter (toUpper c) ∧
        (toLower c).isDigit = c.isDigit ∧ (isIdentifierStart c = !c.isDigit) ∧
        isIdentifierChar c = true := by decide +kernel
  refine of_isAlphanum (fun n bound alphanum => ?_) alphanum
  obtain ⟨lower, upper, isUpper_lower, isUpper_upper, isDigit_lower, start, inside⟩ :=
    each n bound alphanum
  exact ⟨lower, upper, isUpper_lower, isUpper_upper, isDigit_lower, start, inside⟩

/-! ## Names of parameters in Go -/

variable {name a b : String}

/-- A name that the parameter of an argument cannot have. -/
def IsTaken (id : String) : Prop := id ∈ keywords ++ predeclared

instance (id : String) : Decidable (IsTaken id) := inferInstanceAs (Decidable (id ∈ _))

/-- The first word of a name, in lower case. -/
def firstWord (name : String) : List Char :=
  ((Casing.nameWords name.toList).headD []).map toLower

/-- The words of a name behind the first one, put together. -/
def otherWords (name : String) : List Char :=
  let rest := (Casing.nameWords name.toList).tail
  if rest.isEmpty then [] else exportedOf rest

/-- The words of a name put together, the first one in lower case. -/
def stem (name : String) : List Char := firstWord name ++ otherWords name

theorem stem_of_nil (words : Casing.nameWords name.toList = []) : stem name = [] := by
  rw [stem, firstWord, otherWords, words]
  rfl

theorem stem_of_cons {first : List Char} {rest : List (List Char)}
    (words : Casing.nameWords name.toList = first :: rest) :
    stem name = first.map toLower ++ if rest.isEmpty then [] else exportedOf rest := by
  rw [stem, firstWord, otherWords, words]
  rfl

theorem toList_escaped (id : List Char) :
    (if keywords.contains (String.ofList id) || predeclared.contains (String.ofList id) then
      String.ofList id ++ "_" else String.ofList id).toList =
        id ++ if IsTaken (String.ofList id) then ['_'] else [] := by
  have taken : (keywords.contains (String.ofList id) || predeclared.contains (String.ofList id)) =
      true ↔ IsTaken (String.ofList id) := by
    simp [IsTaken]
  simp only [taken]
  split <;> simp

/-- An underscore follows a name that is taken or empty. -/
theorem toList_unexported (name : String) : (unexported name).toList =
    stem name ++ if stem name = [] ∨ IsTaken (String.ofList (stem name)) then ['_'] else [] := by
  cases words : Casing.nameWords name.toList with
  | nil =>
      rw [unexported, words, stem_of_nil words]
      rfl
  | cons first rest =>
      have nonempty : first ≠ [] := (isRun_of_mem_runs (words ▸ List.mem_cons_self)).ne_nil
      have filled : stem name ≠ [] := by
        rw [stem_of_cons words]
        simp [nonempty]
      have escaped : unexported name =
          if keywords.contains (String.ofList (stem name)) ||
            predeclared.contains (String.ofList (stem name)) then
            String.ofList (stem name) ++ "_" else String.ofList (stem name) := by
        rw [unexported, words, stem_of_cons words]
      rw [escaped, toList_escaped]
      simp only [filled, false_or]

theorem underscore_not_mem_of_isTaken {id : String} (taken : IsTaken id) : '_' ∉ id.toList := by
  have each : ∀ word ∈ keywords ++ predeclared, '_' ∉ word.toList := by decide
  exact each id taken

/-- No parameter is called like a reserved word, or by a name that is taken. -/
theorem not_isTaken_unexported (name : String) : ¬IsTaken (unexported name) := by
  intro taken
  have spelled := toList_unexported name
  have plain := underscore_not_mem_of_isTaken taken
  split at spelled
  · rw [spelled] at plain
    exact plain (by simp)
  · rename_i free
    rw [List.append_nil] at spelled
    refine free (.inr ?_)
    rwa [← spelled, String.ofList_toList]

/-! ## Plain names -/

/-- A word that is put into a name keeps its characters or gets their upper-case forms. -/
theorem of_mem_exportedWord {P : Char → Prop} {word : List Char}
    (each : ∀ c ∈ word, P c ∧ P (toUpper c)) {c : Char} (mem : c ∈ exportedWord word) : P c := by
  have upper : ∀ c ∈ word.map toUpper, P c :=
    List.forall_mem_map.mpr fun c mem => (each c mem).2
  unfold exportedWord at mem
  dsimp only at mem
  split at mem
  · exact upper c mem
  · cases word with
    | nil => exact nomatch mem
    | cons first rest =>
        rcases List.mem_cons.mp mem with rfl | later
        · exact (each first List.mem_cons_self).2
        · exact (each c (List.mem_cons_of_mem _ later)).1

/-- An exported identifier has the characters of its words, their upper-case forms, and the letter
that stands in front of what is no letter. -/
theorem of_mem_exportedOf {P : Char → Prop} {words : List (List Char)} (mark : P 'X')
    (each : ∀ word ∈ words, ∀ c ∈ word, P c ∧ P (toUpper c)) {c : Char}
    (mem : c ∈ exportedOf words) : P c := by
  have inside : ∀ c ∈ words.flatMap exportedWord, P c := by
    intro c mem
    obtain ⟨word, inside, mem⟩ := List.mem_flatMap.mp mem
    exact of_mem_exportedWord (each word inside) mem
  unfold exportedOf at mem
  dsimp only at mem
  split at mem
  · split at mem
    · exact inside c mem
    · rcases List.mem_cons.mp mem with rfl | later
      · exact mark
      · exact inside c later
  · cases List.mem_singleton.mp mem
    exact mark

theorem alphanum_of_mem_exportedOf {words : List (List Char)}
    (plain : ∀ word ∈ words, ∀ c ∈ word, c.isAlphanum = true) {c : Char}
    (mem : c ∈ exportedOf words) : c.isAlphanum = true := by
  refine of_mem_exportedOf (P := fun c => c.isAlphanum = true) rfl (fun word inside c mem => ?_) mem
  have alphanum := plain word inside c mem
  exact ⟨alphanum, (isPlainChar_of_isAlphanum alphanum).upper⟩

theorem alphanum_of_mem_nameWords (plain : IsPlainName name) {word : List Char}
    (mem : word ∈ Casing.nameWords name.toList) {c : Char} (inside : c ∈ word) :
    c.isAlphanum = true := by
  obtain ⟨here, free⟩ := Casing.mem_of_mem_nameWords mem inside
  rcases plain c here with rfl | alphanum
  · exact nomatch free
  · exact alphanum

theorem exists_of_mem_firstWord (plain : IsPlainName name) {c : Char}
    (mem : c ∈ firstWord name) : ∃ d, d.isAlphanum = true ∧ c = toLower d := by
  obtain ⟨d, inside, rfl⟩ := List.mem_map.mp mem
  refine ⟨d, ?_, rfl⟩
  cases words : Casing.nameWords name.toList with
  | nil =>
      rw [words] at inside
      exact nomatch inside
  | cons first rest =>
      rw [words] at inside
      have mem : first ∈ Casing.nameWords name.toList := words ▸ List.mem_cons_self
      exact alphanum_of_mem_nameWords plain mem inside

theorem alphanum_of_mem_otherWords (plain : IsPlainName name) {c : Char}
    (mem : c ∈ otherWords name) : c.isAlphanum = true := by
  unfold otherWords at mem
  dsimp only at mem
  split at mem
  · exact nomatch mem
  · exact alphanum_of_mem_exportedOf
      (fun word inside _ => alphanum_of_mem_nameWords plain (List.mem_of_mem_tail inside)) mem

theorem alphanum_of_mem_stem (plain : IsPlainName name) {c : Char} (mem : c ∈ stem name) :
    c.isAlphanum = true := by
  rcases List.mem_append.mp mem with front | tail
  · obtain ⟨d, alphanum, rfl⟩ := exists_of_mem_firstWord plain front
    exact (isPlainChar_of_isAlphanum alphanum).lower
  · exact alphanum_of_mem_otherWords plain tail

theorem head?_exportedWord (word : List Char) :
    (exportedWord word).head? = word.head?.map toUpper := by
  unfold exportedWord
  dsimp only
  split
  · exact List.head?_map
  · cases word <;> rfl

/-- Words put together begin with a capital. -/
theorem isUpper_of_head?_exportedOf {words : List (List Char)}
    (plain : ∀ word ∈ words, ∀ c ∈ word, c.isAlphanum = true) {c : Char}
    (head : (exportedOf words).head? = some c) : c.isUpper = true := by
  unfold exportedOf at head
  dsimp only at head
  split at head
  · rename_i first rest joined
    split at head
    · rename_i letter
      have same : first = c := by
        rw [joined] at head
        exact Option.some.inj head
      rw [List.head?_flatMap] at head
      obtain ⟨word, mem, found⟩ := List.exists_of_findSome?_eq_some head
      rw [head?_exportedWord] at found
      obtain ⟨d, inside, rfl⟩ := Option.map_eq_some_iff.mp found
      rw [same] at letter
      have alphanum := plain word mem d (List.mem_of_mem_head? inside)
      rw [(isPlainChar_of_isAlphanum alphanum).isUpper_upper, letter]
    · cases head
      rfl
  · cases head
    rfl

/-- The first word ends where the first capital stands. -/
theorem takeWhile_stem (plain : IsPlainName name) :
    (stem name).takeWhile (!·.isUpper) = firstWord name := by
  have lower : ∀ c ∈ firstWord name, (!c.isUpper) = true := by
    intro c mem
    obtain ⟨d, alphanum, rfl⟩ := exists_of_mem_firstWord plain mem
    rw [(isPlainChar_of_isAlphanum alphanum).isUpper_lower, Bool.not_false]
  have upper : (otherWords name).takeWhile (!·.isUpper) = [] := by
    cases others : otherWords name with
    | nil => rfl
    | cons c rest =>
        have capital : c.isUpper = true := by
          unfold otherWords at others
          dsimp only at others
          split at others
          · exact nomatch others
          · refine isUpper_of_head?_exportedOf (fun word inside _ => ?_) (by rw [others]; rfl)
            exact alphanum_of_mem_nameWords plain (List.mem_of_mem_tail inside)
        rw [List.takeWhile_cons_of_neg (by simp [capital])]
  rw [stem, List.takeWhile_append_of_pos lower, upper, List.append_nil]

theorem stem_eq_iff (plainA : IsPlainName a) (plainB : IsPlainName b) :
    stem a = stem b ↔ firstWord a = firstWord b ∧ otherWords a = otherWords b := by
  constructor
  · intro same
    have first : firstWord a = firstWord b := by
      rw [← takeWhile_stem plainA, ← takeWhile_stem plainB, same]
    rw [stem, stem, first] at same
    exact ⟨first, List.append_cancel_left same⟩
  · rintro ⟨first, others⟩
    rw [stem, stem, first, others]

/-- An underscore at the end does not make two names equal. -/
theorem unexported_eq_iff (plainA : IsPlainName a) (plainB : IsPlainName b) :
    unexported a = unexported b ↔ stem a = stem b := by
  have front {name : String} (plain : IsPlainName name) :
      stem name = (unexported name).toList.takeWhile (· != '_') := by
    have kept : ∀ c ∈ stem name, (c != '_') = true := fun c mem => by
      rw [bne_iff_ne]
      rintro rfl
      exact nomatch alphanum_of_mem_stem plain mem
    rw [toList_unexported, List.takeWhile_append_of_pos kept]
    split <;> simp
  constructor
  · intro same
    rw [front plainA, front plainB, same]
  · intro same
    rw [← String.toList_inj, toList_unexported, toList_unexported, same]

/-- The first character of a name, after the separators in front. -/
def firstChar? (name : String) : Option Char := name.toList.find? fun c => !Casing.isSeparator c

theorem head?_stem (name : String) : (stem name).head? = (firstChar? name).map toLower := by
  have joined := congrArg List.head? (flatten_runs Casing.isSeparator name.toList)
  rw [List.head?_filter] at joined
  rw [firstChar?, ← joined]
  change _ = (Casing.nameWords name.toList).flatten.head?.map toLower
  cases words : Casing.nameWords name.toList with
  | nil =>
      rw [stem_of_nil words]
      rfl
  | cons first rest =>
      have nonempty : first ≠ [] := (isRun_of_mem_runs (words ▸ List.mem_cons_self)).ne_nil
      obtain ⟨c, first, rfl⟩ := List.exists_cons_of_ne_nil nonempty
      rw [stem_of_cons words]
      rfl

theorem alphanum_of_firstChar? (plain : IsPlainName name) {c : Char}
    (first : firstChar? name = some c) : c.isAlphanum = true := by
  rcases plain c (List.mem_of_find?_eq_some first) with rfl | alphanum
  · exact nomatch List.find?_some first
  · exact alphanum

/-- The name of a parameter is an identifier unless its first word begins with a digit. -/
theorem isIdentifier_unexported_iff (plain : IsPlainName name) :
    isIdentifier (unexported name) = true ↔ (firstChar? name).any Char.isDigit = false := by
  have unreserved : keywords.contains (unexported name) = false := by
    simpa using fun mem => not_isTaken_unexported name (List.mem_append_left _ mem)
  have inside : (unexported name).toList.all isIdentifierChar = true := by
    rw [toList_unexported, List.all_append, Bool.and_eq_true, List.all_eq_true]
    refine ⟨fun c mem => (isPlainChar_of_isAlphanum (alphanum_of_mem_stem plain mem)).inside, ?_⟩
    split <;> rfl
  have begins : isIdentifier (unexported name) = true ↔
      ∀ c ∈ (unexported name).toList.head?, isIdentifierStart c = true := by
    rw [isIdentifier, unreserved]
    cases spelled : (unexported name).toList with
    | nil =>
        rw [toList_unexported, List.append_eq_nil_iff] at spelled
        exact nomatch (if_pos (.inl spelled.1)).symm.trans spelled.2
    | cons c rest =>
        rw [spelled, List.all_cons, Bool.and_eq_true] at inside
        simp [inside.2]
  rw [begins, toList_unexported]
  have head := head?_stem name
  cases first : firstChar? name with
  | none =>
      rw [first] at head
      simp [List.head?_eq_none_iff.mp head]
      rfl
  | some d =>
      have isPlain := isPlainChar_of_isAlphanum (alphanum_of_firstChar? plain first)
      rw [first] at head
      rw [List.head?_append, head]
      simp [(isPlainChar_of_isAlphanum isPlain.lower).start, isPlain.isDigit_lower]

/-! ## Signatures in Go -/

/-- The names of the parameters in front of the arguments. -/
def ownNames (m : Module) (e : Endpoint) : List String :=
  "ctx" :: if (m.endpointAuth e).isSome then ["auth"] else []

/-- The names of the parameters of the method of an endpoint. -/
def parameterNames (m : Module) (e : Endpoint) : List String :=
  ownNames m e ++ e.argumentList.map fun a => unexported a.1

theorem ownNames_sublist (m : Module) (e : Endpoint) : (ownNames m e).Sublist ["ctx", "auth"] := by
  unfold ownNames
  split <;> simp

theorem names_of_endpointMethod {s : Scope} {endpoint : String} {e : Endpoint} {im im' : Imports}
    {method : Method} (run : endpointMethod s endpoint e im = .ok (method, im')) :
    method.params.map (·.1) = parameterNames s.module e := by
  unfold endpointMethod at run
  obtain ⟨⟨credentials, _⟩, needed, run⟩ := bind_eq_ok_iff.mp run
  obtain ⟨⟨args, _⟩, shown, run⟩ := bind_eq_ok_iff.mp run
  obtain ⟨⟨_, _⟩, -, run⟩ := bind_eq_ok_iff.mp run
  cases run
  have arguments : args.map (·.1) = e.argumentList.map fun a => unexported a.1 := by
    refine Emit.map_eq_of_mapM shown fun a b im im' named => ?_
    obtain ⟨⟨type, _⟩, -, same⟩ := bind_eq_ok_iff.mp named
    cases same
    rfl
  have own : credentials.map (·.1) = if (s.module.endpointAuth e).isSome then ["auth"] else [] := by
    unfold credentialParams at needed
    split at needed
    all_goals
      rename_i auth
      cases needed
      simp [auth]
  rw [List.map_append, List.map_append, arguments, own]
  rfl

/-- What holds of the names in front and of those of the arguments holds of all. -/
theorem forall_mem_parameterNames_iff {m : Module} {e : Endpoint} {P : String → Prop}
    (own : ∀ n ∈ ["ctx", "auth"], P n) :
    (∀ n ∈ parameterNames m e, P n) ↔ ∀ a ∈ e.argumentList, P (unexported a.1) := by
  rw [parameterNames, List.forall_mem_append, List.forall_mem_map]
  exact and_iff_right fun n mem => own n ((ownNames_sublist m e).subset mem)

theorem not_mem_keywords_of_mem_parameterNames {m : Module} {e : Endpoint} :
    ∀ n ∈ parameterNames m e, n ∉ keywords := by
  refine (forall_mem_parameterNames_iff (by decide)).mpr fun a _ reserved => ?_
  exact not_isTaken_unexported a.1 (List.mem_append_left _ reserved)

theorem isIdentifier_parameterNames_iff {m : Module} {e : Endpoint}
    (plain : ∀ a ∈ e.argumentList, IsPlainName a.1) :
    (∀ n ∈ parameterNames m e, isIdentifier n = true) ↔
      ∀ a ∈ e.argumentList, (firstChar? a.1).any Char.isDigit = false :=
  (forall_mem_parameterNames_iff (by decide)).trans
    (forall₂_congr fun a mem => isIdentifier_unexported_iff (plain a mem))

/-- The names in front are taken, so only the arguments can get the same names. -/
theorem nodup_parameterNames_iff {m : Module} {e : Endpoint}
    (plain : ∀ a ∈ e.argumentList, IsPlainName a.1) :
    (parameterNames m e).Nodup ↔
      (e.argumentList.map fun a => (firstWord a.1, otherWords a.1)).Nodup := by
  have apart : ∀ n ∈ ownNames m e, ∀ other ∈ e.argumentList.map fun a => unexported a.1,
      n ≠ other := by
    rintro n own other declared rfl
    obtain ⟨a, -, rfl⟩ := List.mem_map.mp declared
    have taken : ∀ n ∈ ["ctx", "auth"], IsTaken n := by decide
    exact not_isTaken_unexported a.1 (taken _ ((ownNames_sublist m e).subset own))
  have own : (ownNames m e).Nodup := (ownNames_sublist m e).nodup (by decide)
  have declared : (e.argumentList.map fun a => unexported a.1).Nodup ↔
      (e.argumentList.map fun a => (firstWord a.1, otherWords a.1)).Nodup := by
    rw [List.Nodup, List.Nodup, List.pairwise_map, List.pairwise_map]
    refine List.Pairwise.iff_of_mem fun {a b} mem mem' => not_congr ?_
    rw [unexported_eq_iff (plain a mem) (plain b mem'), Prod.mk.injEq,
      stem_eq_iff (plain a mem) (plain b mem')]
  rw [parameterNames, List.nodup_append, ← declared]
  exact ⟨fun all => all.2.1, fun distinct => ⟨own, distinct, apart⟩⟩

end Go

namespace TypeScript

/-! ## Signatures in TypeScript -/

variable {a b : String}

/-- No reserved word ends in the underscore that a reserved word gets. -/
theorem concat_not_mem_reservedWords (name : String) : name ++ "_" ∉ reservedWords :=
  concat_underscore_not_mem (by decide) name

theorem paramName_not_mem_reservedWords (name : String) : paramName name ∉ reservedWords := by
  unfold paramName
  split
  · exact concat_not_mem_reservedWords name
  · rename_i free
    simpa using free

theorem paramName_of_mem (reserved : a ∈ reservedWords) : paramName a = a ++ "_" :=
  if_pos (by simpa using reserved)

theorem paramName_of_not_mem (free : a ∉ reservedWords) : paramName a = a :=
  if_neg (by simpa using free)

/-- Two names become equal if one is what the other becomes as a reserved word. -/
theorem paramName_eq_iff : paramName a = paramName b ↔
    a = b ∨ (a ∈ reservedWords ∧ b = a ++ "_") ∨ b ∈ reservedWords ∧ a = b ++ "_" := by
  have mark (word : String) : paramName (word ++ "_") = word ++ "_" :=
    paramName_of_not_mem (concat_not_mem_reservedWords word)
  constructor
  · intro same
    by_cases reservedA : a ∈ reservedWords <;> by_cases reservedB : b ∈ reservedWords
    · rw [paramName_of_mem reservedA, paramName_of_mem reservedB] at same
      exact .inl (by simpa using same)
    · rw [paramName_of_mem reservedA, paramName_of_not_mem reservedB] at same
      exact .inr (.inl ⟨reservedA, same.symm⟩)
    · rw [paramName_of_not_mem reservedA, paramName_of_mem reservedB] at same
      exact .inr (.inr ⟨reservedB, same⟩)
    · rw [paramName_of_not_mem reservedA, paramName_of_not_mem reservedB] at same
      exact .inl same
  · rintro (rfl | ⟨reserved, rfl⟩ | ⟨reserved, rfl⟩)
    · rfl
    · rw [paramName_of_mem reserved, mark]
    · rw [paramName_of_mem reserved, mark]

/-- The name of the credentials is no reserved word, and none with an underscore at its end. -/
theorem paramName_eq_auth_iff : paramName a = "auth" ↔ a = "auth" := by
  have free : "auth" ∉ reservedWords := by decide
  have plain : "auth".toList.getLast? ≠ some '_' := by decide
  refine ⟨fun same => ?_, fun same => by rw [same, paramName_of_not_mem free]⟩
  by_cases reserved : a ∈ reservedWords
  · rw [paramName_of_mem reserved] at same
    rw [← same] at plain
    exact absurd (by simp) plain
  · rwa [paramName_of_not_mem reserved] at same

/-- The names of the parameters in front of the arguments. -/
def ownNames (m : Module) (e : Endpoint) : List String :=
  if (m.endpointAuth e).isSome then ["auth"] else []

/-- The names of the parameters of the method of an endpoint. -/
def parameterNames (m : Module) (e : Endpoint) : List String :=
  ownNames m e ++ e.argumentList.map fun a => paramName a.1

/-- A parameter is shown by its name and a type. -/
def Shows (name text : String) : Prop := ∃ type, text = name ++ ": " ++ type

theorem exists_of_signature {s : Scope} {isAsync : Bool} {endpoint : String} {e : Endpoint}
    {im im' : Imports} {text : String}
    (run : signature s isAsync endpoint e im = .ok (text, im')) :
    ∃ parameters result, List.Forall₂ Shows (parameterNames s.module e) parameters ∧
      text = endpoint ++ "(" ++ joinWith ", " parameters ++ "): " ++ result ++ ";" := by
  unfold signature at run
  obtain ⟨⟨credentials, _⟩, needed, run⟩ := bind_eq_ok_iff.mp run
  obtain ⟨⟨args, _⟩, shown, run⟩ := bind_eq_ok_iff.mp run
  obtain ⟨⟨result, _⟩, -, run⟩ := bind_eq_ok_iff.mp run
  cases run
  have own : List.Forall₂ Shows (ownNames s.module e) credentials := by
    unfold credentialParams at needed
    unfold ownNames
    split at needed
    all_goals
      rename_i auth
      cases needed
      simp only [auth]
    · exact .cons ⟨_, rfl⟩ .nil
    · exact .nil
  have declared : List.Forall₂ Shows (e.argumentList.map fun a => paramName a.1) args := by
    rw [List.forall₂_map_left_iff]
    refine (Emit.forall₂_of_mapM shown).imp fun a text ⟨im, im', done⟩ => ?_
    obtain ⟨⟨type, _⟩, -, same⟩ := bind_eq_ok_iff.mp done
    cases same
    exact ⟨type, rfl⟩
  exact ⟨credentials ++ args, _, List.rel_append own declared, rfl⟩

theorem not_mem_reservedWords_of_mem_parameterNames {m : Module} {e : Endpoint} :
    ∀ n ∈ parameterNames m e, n ∉ reservedWords := by
  rw [parameterNames, List.forall_mem_append, List.forall_mem_map]
  refine ⟨?_, fun a _ => paramName_not_mem_reservedWords a.1⟩
  unfold ownNames
  split <;> decide

/-- Names stay apart unless one of them is another one, a reserved word, with its underscore. -/
theorem paramName_injOn_iff {names : List String} :
    (∀ a ∈ names, ∀ b ∈ names, paramName a = paramName b → a = b) ↔
      ∀ word ∈ reservedWords, word ∈ names → word ++ "_" ∉ names := by
  constructor
  · intro apart word reserved mem marked
    have same := apart word mem _ marked (paramName_eq_iff.mpr (.inr (.inl ⟨reserved, rfl⟩)))
    exact concat_not_mem_reservedWords word (same ▸ reserved)
  · intro apart a memA b memB same
    rcases paramName_eq_iff.mp same with same | ⟨reserved, rfl⟩ | ⟨reserved, rfl⟩
    · exact same
    · exact absurd memB (apart a reserved memA)
    · exact absurd memA (apart b reserved memB)

theorem nodup_parameterNames_iff {m : Module} {e : Endpoint} :
    (parameterNames m e).Nodup ↔
      ((m.endpointAuth e).isSome = true → "auth" ∉ e.argumentList.map (·.1)) ∧
      ∀ word ∈ reservedWords, word ∈ e.argumentList.map (·.1) →
        word ++ "_" ∉ e.argumentList.map (·.1) := by
  have names : (e.argumentList.map fun a => paramName a.1) =
      (e.argumentList.map (·.1)).map paramName := by
    rw [List.map_map]
    rfl
  have own : (ownNames m e).Nodup := by
    unfold ownNames
    split <;> simp
  have apart : (∀ n ∈ ownNames m e, ∀ other ∈ (e.argumentList.map (·.1)).map paramName,
      n ≠ other) ↔ ((m.endpointAuth e).isSome = true → "auth" ∉ e.argumentList.map (·.1)) := by
    unfold ownNames
    split
    · rename_i needed
      rw [List.forall_mem_singleton, imp_iff_right needed, List.forall_mem_map (f := paramName)]
      exact ⟨fun apart mem => apart _ mem (paramName_eq_auth_iff.mpr rfl).symm,
        fun free a mem same => free (paramName_eq_auth_iff.mp same.symm ▸ mem)⟩
    · rename_i free
      exact iff_of_true nofun fun needed => absurd needed free
  rw [parameterNames, names, List.nodup_append, List.nodup_map_iff_inj_on e.nodup_argumentList,
    apart, paramName_injOn_iff, and_iff_right own, and_comm]

end TypeScript

/-! ## Both languages -/

/-- The methods that are generated for an endpoint have the parameters of their language, the
arguments in their order. Their names are no reserved words. In Go they are identifiers exactly if
no name of an argument begins with a digit after its separators, and distinct exactly if no two
arguments have the same first word up to case and the same other words put together. In TypeScript
they are distinct exactly if no argument is called like the credentials that the method needs, and
none like another one that is a reserved word, with its underscore. -/
theorem Endpoint.parameterNames_exact {e : Endpoint}
    (plain : ∀ a ∈ e.argumentList, IsPlainName a.1) :
    (∀ s endpoint im im' method, Go.endpointMethod s endpoint e im = .ok (method, im') →
      method.params.map (·.1) = Go.parameterNames s.module e) ∧
    (∀ s isAsync endpoint im im' text,
      TypeScript.signature s isAsync endpoint e im = .ok (text, im') →
        ∃ parameters result,
          List.Forall₂ TypeScript.Shows (TypeScript.parameterNames s.module e) parameters ∧
          text = endpoint ++ "(" ++ joinWith ", " parameters ++ "): " ++ result ++ ";") ∧
    ∀ m,
      (∀ n ∈ Go.parameterNames m e, n ∉ Go.keywords) ∧
      ((∀ n ∈ Go.parameterNames m e, Go.isIdentifier n = true) ↔
        ∀ a ∈ e.argumentList, (Go.firstChar? a.1).any Char.isDigit = false) ∧
      ((Go.parameterNames m e).Nodup ↔
        (e.argumentList.map fun a => (Go.firstWord a.1, Go.otherWords a.1)).Nodup) ∧
      (∀ n ∈ TypeScript.parameterNames m e, n ∉ TypeScript.reservedWords) ∧
      ((TypeScript.parameterNames m e).Nodup ↔
        ((m.endpointAuth e).isSome = true → "auth" ∉ e.argumentList.map (·.1)) ∧
        ∀ word ∈ TypeScript.reservedWords, word ∈ e.argumentList.map (·.1) →
          word ++ "_" ∉ e.argumentList.map (·.1)) := by
  refine ⟨fun _ _ _ _ _ run => Go.names_of_endpointMethod run,
    fun _ _ _ _ _ _ run => TypeScript.exists_of_signature run, fun m => ⟨?_, ?_, ?_, ?_, ?_⟩⟩
  · exact Go.not_mem_keywords_of_mem_parameterNames
  · exact Go.isIdentifier_parameterNames_iff plain
  · exact Go.nodup_parameterNames_iff plain
  · exact TypeScript.not_mem_reservedWords_of_mem_parameterNames
  · exact TypeScript.nodup_parameterNames_iff

/-- An endpoint whose arguments have taken names. -/
def Endpoint.rename : Endpoint :=
  ⟨⟨"POST", [.literal "/rename"]⟩, none, some ⟨[("type", some ⟨"string", none⟩),
    ("class", some ⟨"string", none⟩), ("list_id", some ⟨"integer", none⟩)], by decide⟩, "", ""⟩

/-- An endpoint with an argument called like the credentials. -/
def Endpoint.login : Endpoint :=
  ⟨⟨"POST", [.literal "/login"]⟩, none, some ⟨[("auth", some ⟨"string", none⟩)], by decide⟩, "", ""⟩

/-- An endpoint with arguments whose names differ in case. -/
def Endpoint.find : Endpoint :=
  ⟨⟨"GET", [.literal "/find"]⟩, none, some ⟨[("id", some ⟨"string", none⟩),
    ("ID", some ⟨"string", none⟩), ("1st", some ⟨"string", none⟩)], by decide⟩, "", ""⟩

/-- A module with these endpoints, which need credentials. -/
def Module.account : Module :=
  ⟨"Account", "", some .basic, none, none, some ⟨[("rename", some .rename), ("login", some .login),
    ("find", some .find)], by decide⟩⟩

/-- A project with this module only. -/
def Project.account : Project := ⟨⟨[("account", .account)], by decide⟩⟩

theorem Endpoint.parameterNames_exact_rename :
    (∃ method im', Go.endpointMethod ⟨.account, "account", .account, "x"⟩ "rename" .rename
        (.new "x/account") = .ok (method, im') ∧
      method.params.map (·.1) = ["ctx", "auth", "type_", "class", "listID"]) ∧
    (∃ text im', TypeScript.signature ⟨.account, "account", .account⟩ false "rename" .rename
        (.new "./account") = .ok (text, im') ∧
      ∃ parameters result,
        List.Forall₂ TypeScript.Shows ["auth", "type", "class_", "list_id"] parameters ∧
        text = "rename" ++ "(" ++ joinWith ", " parameters ++ "): " ++ result ++ ";") ∧
    (∀ n ∈ Go.parameterNames .account .rename, Go.isIdentifier n = true) ∧
    (Go.parameterNames .account .rename).Nodup ∧
    (TypeScript.parameterNames .account .rename).Nodup := by
  obtain ⟨go, typeScript, names⟩ :=
    parameterNames_exact (e := .rename) (by decide)
  obtain ⟨-, identifiers, goDistinct, -, distinct⟩ := names .account
  have goNames : Go.parameterNames .account .rename =
      ["ctx", "auth", "type_", "class", "listID"] := by decide
  have typeScriptNames : TypeScript.parameterNames .account .rename =
      ["auth", "type", "class_", "list_id"] := by decide
  refine ⟨?_, ?_, identifiers.mpr (by decide), goDistinct.mpr (by decide),
    distinct.mpr (by decide)⟩
  · obtain ⟨⟨method, im'⟩, run⟩ : Succeeds (Go.endpointMethod ⟨.account, "account", .account, "x"⟩
        "rename" .rename (.new "x/account")) := by decide +kernel
    exact ⟨method, im', run, (go _ _ _ _ _ run).trans goNames⟩
  · obtain ⟨⟨text, im'⟩, run⟩ : Succeeds (TypeScript.signature ⟨.account, "account", .account⟩ false
        "rename" .rename (.new "./account")) := by decide +kernel
    exact ⟨text, im', run, typeScriptNames ▸ typeScript _ _ _ _ _ _ run⟩

/-- The arguments of a valid module whose parameters cannot be told apart: in TypeScript an argument
and the credentials, in Go two arguments. In Go a name also begins with a digit. -/
theorem Endpoint.parameters_clash :
    Succeeds Module.account.validate ∧
    (∀ e ∈ [login, find], ∀ a ∈ e.argumentList, a.1 ≠ "" ∧ IsPlainName a.1) ∧
    (TypeScript.signature ⟨.account, "account", .account⟩ false "login" .login
      (.new "./account")).toOption.map (·.1) =
        some "login(auth: Credentials, auth: string): void;" ∧
    ¬(TypeScript.parameterNames .account .login).Nodup ∧
    (Go.endpointMethod ⟨.account, "account", .account, "x"⟩ "find" .find
      (.new "x/account")).toOption.map (fun run => run.1.params.map (·.1)) =
        some ["ctx", "auth", "id", "id", "1st"] ∧
    ¬(Go.parameterNames .account .find).Nodup ∧
    Go.isIdentifier "1st" = false := by
  decide +kernel

end ApiCompiler
