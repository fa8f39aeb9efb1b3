import ApiCompiler.Proofs.Yaml.Fit
import ApiCompiler.Yaml.Record

/-!
# Records that are set key by key

A key is read as a text when it is looked up in a record, and as a plain value when it is given to
the mappings that are merged. Both agree on words, the texts that mean nothing but themselves; so
a word that was given is not taken again. The own entries of a mapping set a key of a record at
most once, because a key is refused when it was done. A merged mapping cannot set it again, because
the keys of the mapping around the merge are given. So what is settled by the one setting of a key
stays settled.
-/

namespace ApiCompiler.Yaml

open Fit

/-! ## Words -/

/-- A text that means nothing but itself. -/
def IsWord (text : String) : Prop :=
  ∀ timestamps, meaning timestamps text = (strTag, .str text)

/-- A word under a tag is the text, unless the tag is that of binary data. -/
theorem resolve_word {tag text : String} (word : IsWord text) (plain : (tag == binaryTag) = false)
    {found : String} {value : Value} (resolved : resolve tag text = .ok (found, value)) :
    value = .str text := by
  unfold resolve at resolved
  rw [plain, word] at resolved
  split at resolved
  · cases resolved
    rfl
  · rw [if_neg Bool.false_ne_true] at resolved
    split at resolved
    · cases resolved
      rfl
    · dsimp only at resolved
      split at resolved
      · cases resolved
        rfl
      · exact nomatch resolved

theorem resolve_binary {text found : String} {value : Value}
    (resolved : resolve binaryTag text = .ok (found, value)) :
    value = .str (Reader.givenText binaryTag text).shown := by
  unfold resolve at resolved
  rw [if_neg (by decide), if_pos (by decide)] at resolved
  split at resolved
  · rename_i decoded data
    cases resolved
    rw [Reader.givenText, if_pos (by decide), data, Option.getD_some]
  · exact nomatch resolved

/-- What is read as a word is a scalar that means the word. -/
theorem resolve_of_text {word type : String} (isWord : IsWord word) {n : Node}
    {s : Surroundings} {t t' : Tally} {before : String}
    (returned : (Reader.text type n before).Returns s t (word, true) t') :
    ∃ line tag text found, n = .scalar line tag text ∧
      resolve tag text = .ok (found, .str word) := by
  obtain ⟨⟨raw, good⟩, _, read, last⟩ := returns_bind_iff.mp returned
  obtain ⟨rfl, rfl⟩ := Prod.mk.inj (returns_pure_iff.mp last).1
  unfold Reader.rawText at read
  split at read
  · rename_i line tag text
    obtain ⟨value, _, meant, chosen⟩ := returns_bind_iff.mp read
    obtain ⟨⟨found, resolved⟩, rfl⟩ := returns_scalarValue_iff.mp meant
    have given : Reader.givenText tag text = raw := by
      split at chosen
      · exact nomatch (returns_pure_iff.mp chosen).1
      · exact (Prod.mk.inj (returns_pure_iff.mp chosen).1).1
    suffices means : value = .str raw.shown from ⟨line, tag, text, found, rfl, means ▸ resolved⟩
    by_cases binary : (tag == binaryTag) = true
    · obtain rfl := eq_of_beq binary
      rw [← given]
      exact resolve_binary resolved
    · rw [Reader.givenText, if_neg binary] at given
      subst given
      exact resolve_word isWord (eq_false_of_ne_true binary) resolved
  · obtain ⟨impossible, -⟩ := Reader.returns_refuse read
    exact nomatch impossible

/-- A scalar without a type is what it means. -/
theorem resolve_of_untyped {line : Nat} {tag text : String} {s : Surroundings} {t t' : Tally}
    {before : Value} {v : Value × Bool}
    (returned : (untyped (.scalar line tag text) before).Returns s t v t') :
    ∃ found value, resolve tag text = .ok (found, value) ∧ v = (value, true) := by
  obtain ⟨_, _, here, returned⟩ := returns_bind_iff.mp returned
  obtain ⟨rfl, rfl⟩ := returns_read_iff.mp here
  cases depth : s.depth with
  | zero =>
      rw [depth, untypedFrom] at returned
      exact absurd returned not_returns_malformed
  | succ depth' =>
      rw [depth, untypedFrom] at returned
      obtain ⟨value, _, meant, done⟩ := returns_bind_iff.mp returned
      obtain ⟨⟨found, resolved⟩, rfl⟩ := returns_scalarValue_iff.mp meant
      exact ⟨found, value, resolved, (returns_pure_iff.mp done).1.symm⟩

/-- A key of a mapping is read as a text. -/
def ReadsAs (s : Surroundings) (k : Node) (key : String) : Prop :=
  ∃ t t', ((Reader.text "string").visit k "").Returns s t (key, true) t'

/-- A key that is read as a word is the word among plain values, too. -/
theorem untyped_of_readsAs {word : String} (isWord : IsWord word) {s : Surroundings} {k : Node}
    (reads : ReadsAs s k word) {u u' : Tally} {before : Value} {v : Value × Bool}
    (plain : (untyped.visit k before).Returns s u v u') : v = (.str word, true) := by
  obtain ⟨t, t', text⟩ := reads
  obtain ⟨_, _, -, -, text⟩ := Reader.returns_of_visit text
  obtain ⟨_, _, -, -, plain⟩ := Reader.returns_of_visit plain
  obtain ⟨line, tag, written, found, scalar, resolved⟩ := resolve_of_text isWord text
  rw [scalar] at plain
  obtain ⟨_, value, again, rfl⟩ := resolve_of_untyped plain
  rw [resolved] at again
  cases again
  rfl

/-! ## Given keys -/

/-- A key counts as given. -/
def Given (key : String) (given : Option (List Value)) : Prop :=
  ∃ keys ∈ given, keys.any (Value.str key).sameKey = true

theorem sameKey_self (key : String) : (Value.str key).sameKey (.str key) = true :=
  show Value.beq _ _ = true by simp [Value.beq]

theorem given_of_mem {key : String} {keys : List Value} (mem : Value.str key ∈ keys) :
    Given key (some keys) :=
  ⟨keys, rfl, List.any_eq_true.mpr ⟨_, mem, sameKey_self key⟩⟩

theorem given_of_takeGiven {s : Surroundings} {t t' : Tally} {given : Option (List Value)}
    (taken : takeGiven.Returns s t given t') : t.given = given := by
  obtain ⟨_, _, here, taken⟩ := returns_bind_iff.mp taken
  obtain ⟨rfl, rfl⟩ := returns_get_iff.mp here
  obtain ⟨_, _, -, done⟩ := returns_bind_iff.mp taken
  exact (returns_pure_iff.mp done).1

section TakeKey

variable {given given' : Option (List Value)} {key : String}

/-- Outside of a merge every key is taken; inside, one that is not given, which is given then. -/
theorem takeKey_cases {value : Value} (taken : takeKey given value = some given') :
    (given = none ∧ given' = none) ∨
      ∃ keys, given = some keys ∧ keys.any value.sameKey = false ∧
        given' = some (value :: keys) := by
  cases given with
  | none =>
      cases taken
      exact .inl ⟨rfl, rfl⟩
  | some keys =>
      rw [takeKey] at taken
      split at taken
      · exact nomatch taken
      · rename_i fresh
        cases taken
        exact .inr ⟨keys, rfl, Bool.eq_false_iff.mpr fresh, rfl⟩

theorem not_given_of_takeKey (taken : takeKey given (.str key) = some given') :
    ¬Given key given := by
  rintro ⟨keys, rfl, present⟩
  rcases takeKey_cases taken with ⟨impossible, -⟩ | ⟨_, same, fresh, -⟩
  · exact nomatch impossible
  · cases same
    exact Bool.eq_false_iff.mp fresh present

theorem isSome_of_takeKey {value : Value} (taken : takeKey given value = some given') :
    given'.isSome = given.isSome := by
  rcases takeKey_cases taken with ⟨rfl, rfl⟩ | ⟨keys, rfl, -, rfl⟩
  · rfl
  · rfl

theorem given_takeKey (taken : takeKey given (.str key) = some given') :
    given = none ∨ Given key given' := by
  rcases takeKey_cases taken with ⟨absent, -⟩ | ⟨keys, -, -, rfl⟩
  · exact .inl absent
  · exact .inr (given_of_mem List.mem_cons_self)

theorem Given.of_takeKey {value : Value} (before : Given key given)
    (taken : takeKey given value = some given') : Given key given' := by
  obtain ⟨keys, rfl, present⟩ := before
  rcases takeKey_cases taken with ⟨impossible, -⟩ | ⟨_, same, -, rfl⟩
  · exact nomatch impossible
  · cases same
    exact ⟨_, rfl, by rw [List.any_cons, present, Bool.or_true]⟩

end TakeKey

/-! ## Merges -/

section Merge

variable {α : Type} {reader : Reader α}

/-- Merges a node, which has to be a mapping. -/
def mergeOne (reader : Reader α) (here : Surroundings) (n : Node) (value : α) : Fit α := do
  if (targetIn here n).isMapping then return (← reader.visit n value).1 else malformed

/-- Merges the mappings under a merge key in order. -/
def mergeNodes (reader : Reader α) (here : Surroundings) : Node → α → Fit α
  | .sequence _ _ items, before =>
    items.foldlM (fun value i => mergeOne reader here i value) before
  | n, before => mergeOne reader here n before

/-- The values of keys. -/
def keyValues (given : List (Value × Bool)) : List Value := (given.filter (·.2)).map (·.1)

theorem merge_eq (plain : Reader Value) (keys : List Node) (n : Node) (before : α) :
    merge plain reader keys n before = do
      let here ← read
      let outer := (← get).given
      if outer.isNone then
        let given ← keys.mapM fun k => plain.visit k .null
        if (keyValues given).any isCollection then malformed
        putGiven (some (keyValues given))
      let value ← mergeNodes reader here n before
      if outer.isNone then putGiven none
      return value := by
  cases n <;> rfl

/-- A merge inside another one goes on with its given keys; any other gives the keys of the
mapping around it. -/
theorem exists_of_merge {plain : Reader Value} {keys : List Node} {n : Node} {before after : α}
    {s : Surroundings} {t t' : Tally}
    (returned : (merge plain reader keys n before).Returns s t after t') :
    (t.given.isSome ∧ (mergeNodes reader s n before).Returns s t after t') ∨
      t.given = none ∧ t'.given = none ∧ ∃ given u u' u'',
        (keys.mapM fun k => plain.visit k .null).Returns s t given u' ∧
          u.given = some (keyValues given) ∧
          (mergeNodes reader s n before).Returns s u after u'' := by
  simp only [merge_eq, returns_bind_iff, returns_read_iff, returns_get_iff] at returned
  obtain ⟨_, _, ⟨rfl, rfl⟩, _, _, ⟨rfl, rfl⟩, returned⟩ := returned
  cases outer : t.given with
  | some keys =>
      rw [outer] at returned
      obtain ⟨value, u, merged, done⟩ := returns_bind_iff.mp returned
      obtain ⟨rfl, rfl⟩ := returns_pure_iff.mp done
      exact .inl ⟨rfl, merged⟩
  | none =>
      rw [outer] at returned
      obtain ⟨given, u', values, returned⟩ := returns_bind_iff.mp returned
      split at returned
      · obtain ⟨_, _, ended, -⟩ := returns_bind_iff.mp returned
        exact absurd ended not_returns_malformed
      · obtain ⟨_, u, put, returned⟩ := returns_bind_iff.mp returned
        obtain ⟨value, u'', merged, done⟩ := returns_bind_iff.mp returned
        obtain ⟨_, _, removed, done⟩ := returns_bind_iff.mp done
        obtain ⟨rfl, rfl⟩ := returns_pure_iff.mp done
        exact .inr ⟨rfl, returns_modify_iff.mp removed ▸ rfl, given, u, u', u'', values,
          returns_modify_iff.mp put ▸ rfl, merged⟩

end Merge

/-! ## Parts -/

/-- A part of a record is changed by its own reader. -/
theorem exists_of_part {R α : Type} {reader : Reader α} {get : R → α} {put : α → R → R} {n : Node}
    {r r' : R} {s : Surroundings} {t t' : Tally}
    (changed : (part reader get put n r).Returns s t r' t') :
    ∃ v, (reader.visit n (get r)).Returns s t v t' ∧ r' = put v.1 r := by
  obtain ⟨v, _, read, done⟩ := returns_bind_iff.mp changed
  obtain ⟨rfl, rfl⟩ := returns_pure_iff.mp done
  exact ⟨v, read, rfl⟩

namespace RecordType

variable {R : Type} {type : RecordType R}

/-! ## Entries -/

/-- What one entry of a mapping makes of the progress: nothing, a key that counts as given from
now on, or the setting of a key that was not done. -/
inductive Taken (type : RecordType R) (s : Surroundings) (entry : Node × Node) (p : Progress R) :
    Progress R → Prop
  | nothing : Taken type s entry p p
  | key {key : String} {given : Option (List Value)}
      (taken : takeKey p.given (.str key) = some given) :
      Taken type s entry p { p with given }
  | field {key : String} {given : Option (List Value)} {set : Node → R → Fit R} {record : R}
      {t t' : Tally} (reads : ReadsAs s entry.1 key)
      (taken : takeKey p.given (.str key) = some given) (known : type.set key = some set)
      (fresh : key ∉ p.done) (changed : (set entry.2 p.record).Returns s t record t') :
      Taken type s entry p ⟨record, key :: p.done, given⟩

theorem taken_of_takeEntry {s : Surroundings} {t t' : Tally} {entry : Node × Node}
    {p p' : Progress R} (returned : (type.takeEntry p entry).Returns s t p' t') :
    Taken type s entry p p' := by
  obtain ⟨k, v⟩ := entry
  unfold takeEntry at returned
  dsimp only at returned
  split at returned
  · obtain ⟨rfl, -⟩ := returns_pure_iff.mp returned
    exact .nothing
  · obtain ⟨⟨key, good⟩, u, visited, returned⟩ := returns_bind_iff.mp returned
    cases good with
    | false =>
        obtain ⟨rfl, -⟩ := returns_pure_iff.mp returned
        exact .nothing
    | true =>
        dsimp only at returned
        rw [Bool.not_true, if_neg Bool.false_ne_true] at returned
        split at returned
        · obtain ⟨rfl, -⟩ := returns_pure_iff.mp returned
          exact .nothing
        · rename_i given taken
          split at returned
          · rename_i set known
            split at returned
            · obtain ⟨_, _, -, returned⟩ := returns_bind_iff.mp returned
              obtain ⟨rfl, -⟩ := returns_pure_iff.mp returned
              exact .key taken
            · rename_i fresh
              obtain ⟨record, u', changed, returned⟩ := returns_bind_iff.mp returned
              obtain ⟨rfl, -⟩ := returns_pure_iff.mp returned
              rw [List.contains_iff_mem] at fresh
              exact .field ⟨t, u, visited⟩ taken known fresh changed
          · obtain ⟨_, _, -, returned⟩ := returns_bind_iff.mp returned
            split at returned
            · obtain ⟨_, _, -, returned⟩ := returns_bind_iff.mp returned
              obtain ⟨rfl, -⟩ := returns_pure_iff.mp returned
              exact .key taken
            · obtain ⟨rfl, -⟩ := returns_pure_iff.mp returned
              exact .key taken

/-! ## Settled records -/

/-- The setting of a word takes fresh records to settled ones, and the other keys keep records
fresh or settled. -/
structure Settles (type : RecordType R) (word : String) (Fresh Settled : R → Prop) : Prop where
  isWord : IsWord word
  weaken : ∀ r, Fresh r → Settled r
  itself : ∀ set, type.set word = some set → ∀ s t n r r' t', Fresh r →
    (set n r).Returns s t r' t' → Settled r'
  others : ∀ key set, key ≠ word → type.set key = some set → ∀ s t n r r' t',
    (set n r).Returns s t r' t' → (Fresh r → Fresh r') ∧ (Settled r → Settled r')

variable {word : String} {Fresh Settled : R → Prop}

/-- A record is settled, and the word was not set or cannot be set again because it is given. -/
def Ready (word : String) (Fresh Settled : R → Prop) (r : R) (given : Option (List Value)) : Prop :=
  Settled r ∧ (Fresh r ∨ Given word given)

/-- What holds after some entries of a mapping: outside of a merge the word was set at most by
one of the entries. -/
structure Progress.Holds (word : String) (Fresh Settled : R → Prop) (s : Surroundings)
    (entries : List (Node × Node)) (start : Option (List Value)) (p : Progress R) : Prop where
  settled : Settled p.record
  once : Fresh p.record ∨ Given word p.given ∨
    p.given = none ∧ word ∈ p.done ∧ ∃ e ∈ entries, ReadsAs s e.1 word
  outside : p.given.isSome = start.isSome

theorem Taken.holds (settles : Settles type word Fresh Settled) {s : Surroundings}
    {entries : List (Node × Node)} {start : Option (List Value)} {entry : Node × Node}
    (mem : entry ∈ entries) {p p' : Progress R} (taken : Taken type s entry p p')
    (holds : p.Holds word Fresh Settled s entries start) :
    p'.Holds word Fresh Settled s entries start := by
  obtain ⟨settled, once, outside⟩ := holds
  cases taken with
  | nothing => exact ⟨settled, once, outside⟩
  | key taken =>
      have same := isSome_of_takeKey taken
      refine ⟨settled, ?_, same.trans outside⟩
      rcases once with fresh | given | ⟨none, done⟩
      · exact .inl fresh
      · exact .inr (.inl (given.of_takeKey taken))
      · rw [none] at taken
        exact .inr (.inr ⟨(Option.some.inj taken).symm, done⟩)
  | @field key given set record t t' reads taken known fresh changed =>
      have same := isSome_of_takeKey taken
      by_cases word' : key = word
      · subst word'
        -- the word was neither done nor given, so the record is fresh
        have before : Fresh p.record := by
          rcases once with fresh | given | ⟨-, done, -⟩
          · exact fresh
          · exact absurd given (not_given_of_takeKey taken)
          · exact absurd done fresh
        refine ⟨settles.itself set known _ _ _ _ _ _ before changed, ?_, same.trans outside⟩
        rcases given_takeKey taken with none | given
        · rw [none] at taken
          exact .inr (.inr ⟨(Option.some.inj taken).symm, List.mem_cons_self, entry, mem, reads⟩)
        · exact .inr (.inl given)
      · obtain ⟨keepsFresh, keepsSettled⟩ :=
          settles.others key set word' known _ _ _ _ _ _ changed
        refine ⟨keepsSettled settled, ?_, same.trans outside⟩
        rcases once with fresh | given | ⟨none, done, written⟩
        · exact .inl (keepsFresh fresh)
        · exact .inr (.inl (given.of_takeKey taken))
        · rw [none] at taken
          exact .inr (.inr ⟨(Option.some.inj taken).symm, List.mem_cons_of_mem key done, written⟩)

theorem holds_of_foldlM (settles : Settles type word Fresh Settled) {s : Surroundings}
    {entries : List (Node × Node)} {before : R} {given : Option (List Value)}
    (ready : Ready word Fresh Settled before given) {t t' : Tally} {p : Progress R}
    (returned : (entries.foldlM type.takeEntry ⟨before, [], given⟩).Returns s t p t') :
    p.Holds word Fresh Settled s entries given := by
  refine foldlM_induction (motive := fun p _ => p.Holds word Fresh Settled s entries given)
    (fun entry mem p u p' u' holds step => (taken_of_takeEntry step).holds settles mem holds)
    ⟨ready.1, ?_, rfl⟩ returned
  exact ready.2.imp_right .inl

/-- Inside a merge the own entries of a mapping leave the record ready. -/
theorem Progress.Holds.ready {s : Surroundings} {entries : List (Node × Node)}
    {start : Option (List Value)} {p : Progress R}
    (holds : p.Holds word Fresh Settled s entries start) (inside : p.given.isSome) :
    Ready word Fresh Settled p.record p.given := by
  refine ⟨holds.settled, ?_⟩
  rcases holds.once with fresh | given | ⟨none, -⟩
  · exact .inl fresh
  · exact .inr given
  · rw [none] at inside
    exact nomatch inside

/-- The keys of a mapping, given to the mappings that it merges, leave the record ready: the word
is among them if an entry has set it. -/
theorem Progress.Holds.ready_keyValues (isWord : IsWord word) {s : Surroundings}
    {entries : List (Node × Node)} {p : Progress R}
    (holds : p.Holds word Fresh Settled s entries none) {t t' : Tally} {given : List (Value × Bool)}
    (values : ((entries.map (·.1)).mapM fun k => untyped.visit k .null).Returns s t given t') :
    Ready word Fresh Settled p.record (some (keyValues given)) := by
  refine ⟨holds.settled, ?_⟩
  rcases holds.once with fresh | ⟨keys, some, -⟩ | ⟨-, -, entry, mem, reads⟩
  · exact .inl fresh
  · have none := holds.outside
    rw [some] at none
    exact nomatch none
  · obtain ⟨value, inside, _, _, plain⟩ := exists_of_mapM values (List.mem_map_of_mem mem)
    obtain rfl := untyped_of_readsAs isWord reads plain
    exact .inr (given_of_mem (List.mem_map.mpr ⟨_, List.mem_filter.mpr ⟨inside, rfl⟩, rfl⟩))

/-- A reader inside a merge keeps a record ready. -/
def KeepsReady (word : String) (Fresh Settled : R → Prop) (reader : Reader R) : Prop :=
  ∀ s t n before v t', Ready word Fresh Settled before t.given →
    (reader n before).Returns s t v t' →
      Settled v.1 ∧ (t.given.isSome → t'.given.isSome ∧ Ready word Fresh Settled v.1 t'.given)

theorem KeepsReady.mergeNodes {reader : Reader R} (keeps : KeepsReady word Fresh Settled reader)
    {s : Surroundings} {t t' : Tally} {n : Node} {before after : R}
    (inside : t.given.isSome) (ready : Ready word Fresh Settled before t.given)
    (returned : (mergeNodes reader s n before).Returns s t after t') :
    t'.given.isSome ∧ Ready word Fresh Settled after t'.given := by
  have one (n : Node) (r : R) (u : Tally) (r' : R) (u' : Tally)
      (before : u.given.isSome ∧ Ready word Fresh Settled r u.given)
      (returned : (mergeOne reader s n r).Returns s u r' u') :
      u'.given.isSome ∧ Ready word Fresh Settled r' u'.given := by
    unfold mergeOne at returned
    split at returned
    · obtain ⟨v, _, visited, done⟩ := returns_bind_iff.mp returned
      obtain ⟨rfl, rfl⟩ := returns_pure_iff.mp done
      obtain ⟨s', w, -, given, read⟩ := Reader.returns_of_visit visited
      rw [← given] at before
      exact (keeps s' w _ r v _ before.2 read).2 before.1
    · exact absurd returned not_returns_malformed
  unfold Yaml.mergeNodes at returned
  split at returned
  · exact foldlM_induction
      (motive := fun r u => u.given.isSome ∧ Ready word Fresh Settled r u.given)
      (fun i _ => one i) ⟨inside, ready⟩ returned
  · exact one _ _ _ _ _ ⟨inside, ready⟩ returned

/-- What a mapping merges does not unsettle what its own entries have settled. -/
theorem KeepsReady.merge {reader : Reader R} (keeps : KeepsReady word Fresh Settled reader)
    (isWord : IsWord word) {s : Surroundings} {entries : List (Node × Node)}
    {start : Option (List Value)} {p : Progress R}
    (holds : p.Holds word Fresh Settled s entries start) {t t' : Tally}
    (given : t.given = p.given) {n : Node} {after : R}
    (merged : (merge untyped reader (entries.map (·.1)) n p.record).Returns s t after t') :
    Settled after ∧
      (start.isSome → t'.given.isSome ∧ Ready word Fresh Settled after t'.given) := by
  rcases exists_of_merge merged with
    ⟨inside, nodes⟩ | ⟨alone, -, keys, u, u', u'', values, gave, nodes⟩
  · have ready : Ready word Fresh Settled p.record t.given := by
      rw [given] at inside ⊢
      exact holds.ready inside
    have kept := keeps.mergeNodes inside ready nodes
    exact ⟨kept.2.1, fun _ => kept⟩
  · have outside : start = none := by
      rw [← Option.not_isSome_iff_eq_none, ← holds.outside, ← given, alone]
      exact Bool.false_ne_true
    subst outside
    have inside : u.given.isSome := by
      rw [gave]
      rfl
    have ready : Ready word Fresh Settled p.record u.given := by
      rw [gave]
      exact holds.ready_keyValues isWord values
    exact ⟨(keeps.mergeNodes inside ready nodes).2.1, fun some => nomatch some⟩

theorem keepsReady_readFrom (settles : Settles type word Fresh Settled) (depth : Nat) :
    KeepsReady word Fresh Settled (type.readFrom depth) := by
  -- on the depth, which a merged mapping has less of
  induction depth with
  | zero => exact fun s t n before v t' _ returned => absurd returned not_returns_malformed
  | succ depth ih =>
      intro s t n before v t' ready returned
      have unchanged (given : t'.given = t.given) :
          Settled before ∧
            (t.given.isSome → t'.given.isSome ∧ Ready word Fresh Settled before t'.given) := by
        rw [given]
        exact ⟨ready.1, fun inside => ⟨inside, ready⟩⟩
      unfold readFrom at returned
      split at returned
      · split at returned
        · obtain ⟨_, u, taken, returned⟩ := returns_bind_iff.mp returned
          obtain ⟨p, u', own, returned⟩ := returns_bind_iff.mp returned
          obtain ⟨_, u'', put, merging⟩ := returns_bind_iff.mp returned
          obtain rfl := given_of_takeGiven taken
          have given : u''.given = p.given := returns_modify_iff.mp put ▸ rfl
          have holds := holds_of_foldlM settles ready own
          split at merging
          · obtain ⟨rfl, rfl⟩ := returns_pure_iff.mp merging
            refine ⟨holds.settled, fun inside => ?_⟩
            rw [← holds.outside] at inside
            rw [given]
            exact ⟨inside, holds.ready inside⟩
          · obtain ⟨record, w, merged, done⟩ := returns_bind_iff.mp merging
            obtain ⟨rfl, rfl⟩ := returns_pure_iff.mp done
            exact ih.merge settles.isWord holds given merged
        · obtain ⟨_, u, noted, done⟩ := returns_bind_iff.mp returned
          obtain ⟨rfl, rfl⟩ := returns_pure_iff.mp done
          exact unchanged (returns_note_iff.mp noted ▸ rfl)
      · obtain ⟨value, _, meant, returned⟩ := returns_bind_iff.mp returned
        obtain ⟨-, rfl⟩ := returns_scalarValue_iff.mp meant
        split at returned
        · obtain ⟨rfl, rfl⟩ := returns_pure_iff.mp returned
          exact unchanged rfl
        · obtain ⟨rfl, given⟩ := Reader.returns_refuse returned
          exact unchanged given
      · obtain ⟨rfl, given⟩ := Reader.returns_refuse returned
        exact unchanged given

/-- Reading a record over a fresh one settles it. -/
theorem Settles.takes_reader (settles : Settles type word Fresh Settled) :
    type.reader.Takes Fresh Settled := by
  intro s t n before v t' fresh returned
  obtain ⟨_, _, here, returned⟩ := returns_bind_iff.mp returned
  obtain ⟨rfl, rfl⟩ := returns_read_iff.mp here
  have ready : Ready word Fresh Settled before t.given := ⟨settles.weaken before fresh, .inl fresh⟩
  exact (keepsReady_readFrom settles _ _ _ n before v t' ready returned).1

end RecordType

end ApiCompiler.Yaml
