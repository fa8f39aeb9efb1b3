import ApiCompiler.Proofs.Yaml.Record

/-!
# Faults of readings

A misfit is noted and does not end a reading; a fault ends it. `Fit.FailsOnly` says of which sort
the faults of a reading are. Readers that are put together have the faults of their parts, and
some faults of the document of their own.
-/

namespace ApiCompiler.Yaml

open Fallible

variable {α β : Type} {P : Error → Prop}

/-! ## Readings -/

namespace Fit

/-- A reading is ended by faults of one sort only, whatever it starts from. -/
def FailsOnly (P : Error → Prop) (x : Fit α) : Prop := ∀ s t, Fallible.FailsOnly P (x s t)

namespace FailsOnly

theorem pure (a : α) : FailsOnly P (Pure.pure a : Fit α) := fun _ _ => .ok _

theorem read : FailsOnly P read := fun _ _ => .ok _

theorem get : FailsOnly P get := fun _ _ => .ok _

theorem set (t : Tally) : FailsOnly P (set t) := fun _ _ => .ok _

theorem modify (f : Tally → Tally) : FailsOnly P (modify f) := fun _ _ => .ok _

theorem note (lines : List String) : FailsOnly P (note lines) := modify _

theorem fail {e : Error} (sort : P e) : FailsOnly P (fail e : Fit α) := fun _ _ => .error sort

theorem bind {x : Fit α} {f : α → Fit β} (first : FailsOnly P x)
    (next : ∀ a, FailsOnly P (f a)) : FailsOnly P (x >>= f) :=
  fun s t => (first s t).bind fun v _ => next v.1 s v.2

theorem withReader {f : Surroundings → Surroundings} {x : Fit α} (inner : FailsOnly P x) :
    FailsOnly P (withReader f x) :=
  fun s t => inner (f s) t

theorem mapM {ι : Type} {f : ι → Fit α} (items : List ι) (each : ∀ i, FailsOnly P (f i)) :
    FailsOnly P (items.mapM f) := by
  induction items with
  | nil => exact pure []
  | cons i rest ih =>
      rw [List.mapM_cons]
      exact (each i).bind fun a => ih.bind fun more => pure (a :: more)

theorem foldlM {σ ι : Type} {step : σ → ι → Fit σ} (items : List ι)
    (each : ∀ a i, FailsOnly P (step a i)) (start : σ) :
    FailsOnly P (items.foldlM step start) := by
  induction items generalizing start with
  | nil => exact pure start
  | cons i rest ih =>
      rw [List.foldlM_cons]
      exact (each start i).bind ih

/-- The misfits of a reading by itself are a fault. -/
theorem alone {x : Fit α} (inner : FailsOnly P x)
    (mismatches : ∀ lines, P (.yaml (.mismatches lines))) (s : Surroundings) :
    Fallible.FailsOnly P (x.alone s) := by
  refine (inner { s with entered := [] } .start).bind fun v _ => ?_
  dsimp only
  split
  · exact .ok _
  · exact .error (mismatches _)

end FailsOnly

end Fit

open Fit (FailsOnly)

/-- A sort of faults that contains those of a document, inside any labels. -/
structure HasMisfits (P : Error → Prop) : Prop where
  yaml : ∀ flaw, P (.yaml flaw)
  within : ∀ label e, P e → P (.within label e)

section Documents

variable (misfits : HasMisfits P)
include misfits

theorem failsOnly_malformed : FailsOnly P (Fit.malformed : Fit α) :=
  .fail (misfits.yaml .malformed)

theorem failsOnly_resolve (tag text : String) : Fallible.FailsOnly P (resolve tag text) := by
  have malformed : P (.yaml .malformed) := misfits.yaml .malformed
  unfold resolve
  dsimp only
  split
  · exact .ok _
  · split
    · split
      · exact .ok _
      · exact .error malformed
    · split
      · exact .ok _
      · split
        · exact .ok _
        · split
          · split
            · exact .ok _
            · exact .error malformed
          · exact .error malformed

theorem failsOnly_parse (text : String) : Fallible.FailsOnly P (Document.parse text) := by
  unfold Document.parse
  dsimp only
  split
  · exact .ok _
  · exact .ok _
  · exact .error (misfits.yaml .malformed)

theorem failsOnly_scalarValue (tag text : String) : FailsOnly P (Fit.scalarValue tag text) := by
  unfold Fit.scalarValue
  split
  · exact .pure _
  · rename_i e failed
    exact .fail (failsOnly_resolve misfits tag text e failed)

theorem failsOnly_count : FailsOnly P Fit.count := by
  have checked (u : Tally) : FailsOnly P (if u.isExcessive then
      Fit.malformed >>= fun _ : Unit => set u else set u) := by
    split
    · exact (failsOnly_malformed misfits).bind fun _ => .set u
    · exact .set u
  exact .bind .read fun here => .bind .get fun t => checked _

/-! ## Readers -/

namespace Reader

variable {reader other : Reader α}

theorem failsOnly_visit {n : Node} {before : α} (inner : ∀ n, FailsOnly P (reader n before)) :
    FailsOnly P (reader.visit n before) := by
  unfold visit
  refine (failsOnly_count misfits).bind fun _ => ?_
  split
  · refine .bind .read fun here => ?_
    split
    · exact failsOnly_malformed misfits
    · exact .withReader ((failsOnly_count misfits).bind fun _ => inner _)
  · exact inner n

theorem failsOnly_alone (inner : ∀ n before, FailsOnly P (reader n before)) (start : α)
    (s : Surroundings) (n : Node) : Fallible.FailsOnly P (reader.alone start s n) :=
  ((failsOnly_visit misfits (inner · start)).alone (fun _ => misfits.yaml _) _).bind
    fun _ _ => .pure _

omit misfits in
theorem failsOnly_refuse (type : String) (n : Node) (before : α) :
    FailsOnly P (refuse type n before) := by
  have refused (lines : List String) :
      FailsOnly P (Fit.note lines >>= fun _ => pure (before, false)) :=
    .bind (.note lines) fun _ => .pure _
  unfold refuse
  split
  · split
    · exact refused _
    · exact refused _
  · exact refused _

theorem failsOnly_rawText (type : String) (n : Node) (before : Text.RawText) :
    FailsOnly P (rawText type n before) := by
  unfold rawText
  split
  · refine (failsOnly_scalarValue misfits _ _).bind fun value => ?_
    split
    · exact .pure _
    · exact .pure _
  · exact failsOnly_refuse type _ before

theorem failsOnly_text (type : String) (n : Node) (before : String) :
    FailsOnly P (text type n before) :=
  (failsOnly_rawText misfits type n before).bind fun _ => .pure _

theorem failsOnly_list {item : Reader α} (inner : ∀ n before, FailsOnly P (item n before))
    (type : String) (start : α) (n : Node) (before : Option (List α)) :
    FailsOnly P (list type item start n before) := by
  unfold list
  split
  · exact .bind (.mapM _ fun i => failsOnly_visit misfits (inner · start)) fun _ => .pure _
  · refine (failsOnly_scalarValue misfits _ _).bind fun value => ?_
    split
    · exact .pure _
    · exact failsOnly_refuse type _ before
  · exact failsOnly_refuse type _ before

theorem failsOnly_optional (inner : ∀ n before, FailsOnly P (reader n before)) (type : String)
    (start : α) (n : Node) (before : Option α) :
    FailsOnly P (reader.optional type start n before) := by
  unfold Reader.optional
  split
  · split
    · exact (failsOnly_scalarValue misfits _ _).bind fun _ => .pure _
    · exact failsOnly_refuse _ _ before
  · exact .bind (inner n _) fun _ => .pure _

omit misfits in
theorem failsOnly_embedded {read : Surroundings → Node → Except Error α}
    (inner : ∀ s n, Fallible.FailsOnly P (read s n)) (n : Node) (before : α) :
    FailsOnly P (embedded read n before) := by
  unfold embedded
  refine .bind .read fun s => ?_
  split
  · exact .pure _
  · exact .bind (.note _) fun _ => .pure _
  · rename_i e _ failed
    exact .fail (inner s n e failed)

omit misfits in
theorem failsOnly_orNull (null : ∀ n before, FailsOnly P (reader n before))
    (inner : ∀ n before, FailsOnly P (other n before)) (n : Node) (before : α) :
    FailsOnly P (orNull reader other n before) := by
  unfold orNull
  split
  · exact null n before
  · exact inner n before

theorem failsOnly_ofText (inner : ∀ n before, FailsOnly P (reader n before)) (start : α)
    (strict : Bool) (text : String) :
    Fallible.FailsOnly P (reader.ofText start strict text Document.parse) := by
  refine (failsOnly_parse misfits text).bind fun document _ => ?_
  split
  · exact .pure _
  · rename_i d _
    have counted : FailsOnly P (do Fit.count; reader.visit d.root start) :=
      (failsOnly_count misfits).bind fun _ => failsOnly_visit misfits (inner · start)
    exact (counted.alone (fun _ => misfits.yaml _) _).bind fun _ _ => .pure _

end Reader

/-! ## Ordered maps -/

section Maps

variable {V : Type} {read : Surroundings → Node → Except Error V}

theorem sort_of_readEntries {readKey : Node → Except Error String}
    {readValue : Node → Except Error V} (keys : ∀ n, Fallible.FailsOnly P (readKey n))
    (values : ∀ n, Fallible.FailsOnly P (readValue n)) (m : OrderedMap V)
    (entries : List (Node × Node)) {e : Error}
    (fault : (MapReading.readEntries readKey readValue m entries).fault = some e) : P e := by
  induction entries generalizing m with
  | nil => exact nomatch fault
  | cons entry rest ih =>
      obtain ⟨k, v⟩ := entry
      unfold MapReading.readEntries at fault
      split at fault
      · rename_i cause failed
        exact Option.some.inj fault ▸ keys k cause failed
      · split at fault
        · exact Option.some.inj fault ▸ misfits.yaml _
        · split at fault
          · rename_i cause failed
            exact Option.some.inj fault ▸ misfits.within _ cause (values v cause failed)
          · exact ih _ fault

theorem failsOnly_orderedMap (inner : ∀ s n, Fallible.FailsOnly P (read s n)) (n : Node)
    (before : OrderedMap V) : FailsOnly P (Reader.orderedMap read n before) := by
  refine Reader.failsOnly_embedded (fun s n => ?_) n before
  unfold MapReading.toExcept
  split
  · exact .ok _
  · rename_i e fault
    refine .error ?_
    unfold MapReading.ofNode MapReading.ofMapping at fault
    split at fault
    · exact sort_of_readEntries misfits
        (Reader.failsOnly_alone misfits (Reader.failsOnly_text misfits "string") "" s) (inner s) _ _
        fault
    · exact Option.some.inj fault ▸ misfits.yaml _

end Maps

/-! ## Plain values -/

theorem failsOnly_merge {plain : Reader Value} {reader : Reader α}
    (values : ∀ n before, FailsOnly P (plain n before))
    (inner : ∀ n before, FailsOnly P (reader n before)) (keys : List Node) (n : Node)
    (before : α) : FailsOnly P (merge plain reader keys n before) := by
  have one (here : Surroundings) (value : α) (n : Node) :
      FailsOnly P (mergeOne reader here n value) := by
    unfold mergeOne
    split
    · exact (Reader.failsOnly_visit misfits (inner · value)).bind fun _ => .pure _
    · exact failsOnly_malformed misfits
  have nodes (here : Surroundings) : FailsOnly P (mergeNodes reader here n before) := by
    unfold mergeNodes
    split
    · exact .foldlM _ (one here) before
    · exact one here before _
  have closed (here : Surroundings) : FailsOnly P (do
      let value ← mergeNodes reader here n before
      putGiven none
      return value) :=
    (nodes here).bind fun value => .bind (.modify _) fun _ => .pure value
  rw [merge_eq]
  refine .bind .read fun here => .bind .get fun t => ?_
  dsimp only
  split
  · refine .bind (.mapM _ fun k => Reader.failsOnly_visit misfits (values · .null)) fun given => ?_
    split
    · exact (failsOnly_malformed misfits).bind fun _ => .bind (.modify _) fun _ => closed here
    · exact .bind (.modify _) fun _ => closed here
  · exact (nodes here).bind fun value => .pure value

omit misfits in
theorem failsOnly_takeGiven : FailsOnly P takeGiven :=
  .bind .get fun _ => .bind (.set _) fun _ => .pure _

/-- The keys of a table are texts, or plain values. -/
theorem failsOnly_tableKey {plain : Reader Value}
    (values : ∀ n before, FailsOnly P (plain n before)) (textual : Bool) (n : Node)
    (before : Value) :
    FailsOnly P ((if textual then fun n _ => do
        let (s, good) ← Reader.text "string" n ""
        return (.str s, good)
      else plain : Reader Value) n before) := by
  split
  · exact (Reader.failsOnly_text misfits _ _ _).bind fun _ => .pure _
  · exact values n before

/-- Plain values and tables, which hold plain values. -/
theorem failsOnly_untypedFrom (depth : Nat) :
    (∀ n before, FailsOnly P (untypedFrom depth n before)) ∧
      ∀ textual n before, FailsOnly P (tableFrom depth textual n before) := by
  induction depth with
  | zero =>
      constructor
      · intro n before
        rw [untypedFrom]
        exact failsOnly_malformed misfits
      · intro textual n before
        rw [tableFrom]
        exact failsOnly_malformed misfits
  | succ depth ih =>
      obtain ⟨plain, table⟩ := ih
      constructor
      · intro n before
        unfold untypedFrom
        split
        · exact (failsOnly_scalarValue misfits _ _).bind fun _ => .pure _
        · exact .bind (.mapM _ fun i => Reader.failsOnly_visit misfits (plain · .null))
            fun _ => .pure _
        · exact .bind .read fun s => (table _ _ _).bind fun _ => .pure _
        · exact failsOnly_malformed misfits
      · intro textual n before
        unfold tableFrom
        split
        · split
          · refine .bind failsOnly_takeGiven fun given => .bind (.foldlM _ ?_ _) fun taken => ?_
            · rintro ⟨out, given⟩ ⟨k, v⟩
              dsimp only
              split
              · exact .pure _
              · refine (Reader.failsOnly_visit misfits
                  (failsOnly_tableKey misfits plain textual · .null)).bind fun key => ?_
                have stored (given : Option (List Value)) : FailsOnly P (do
                    let value ← Reader.visit (untypedFrom depth) v .null
                    return (if value.2 then putValue out key.1 value.1 else out, given)) :=
                  (Reader.failsOnly_visit misfits (plain · .null)).bind fun _ => .pure _
                split
                · exact .pure _
                · split
                  · exact .pure _
                  · split
                    · exact (failsOnly_malformed misfits).bind fun _ => stored _
                    · exact stored _
            · refine .bind (.modify _) fun _ => ?_
              split
              · exact .pure _
              · exact (failsOnly_merge misfits plain (table textual) _ _ _).bind fun _ => .pure _
          · exact .bind (.note _) fun _ => .pure _
        · exact failsOnly_malformed misfits

theorem failsOnly_untyped (n : Node) (before : Value) : FailsOnly P (untyped n before) :=
  .bind .read fun s => (failsOnly_untypedFrom misfits s.depth).1 n before

/-! ## Records -/

theorem failsOnly_part {R : Type} {reader : Reader α}
    (inner : ∀ n before, FailsOnly P (reader n before)) (get : R → α) (put : α → R → R) (n : Node)
    (record : R) : FailsOnly P (part reader get put n record) :=
  (Reader.failsOnly_visit misfits (inner · (get record))).bind fun _ => .pure _

namespace RecordType

variable {R : Type} {type : RecordType R}

theorem failsOnly_takeEntry
    (parts : ∀ key set, type.set key = some set → ∀ n r, FailsOnly P (set n r)) (p : Progress R)
    (entry : Node × Node) : FailsOnly P (type.takeEntry p entry) := by
  obtain ⟨k, v⟩ := entry
  unfold takeEntry
  dsimp only
  split
  · exact .pure _
  · refine (Reader.failsOnly_visit misfits fun n => Reader.failsOnly_text misfits _ n "").bind
      fun key => ?_
    split
    · exact .pure _
    · split
      · exact .pure _
      · split
        · rename_i set known
          split
          · exact .bind (.note _) fun _ => .pure _
          · exact (parts _ set known _ _).bind fun _ => .pure _
        · refine .bind .read fun s => ?_
          split
          · exact .bind (.note _) fun _ => .pure _
          · exact .pure _

theorem failsOnly_readFrom
    (parts : ∀ key set, type.set key = some set → ∀ n r, FailsOnly P (set n r)) (depth : Nat)
    (n : Node) (before : R) : FailsOnly P (type.readFrom depth n before) := by
  induction depth generalizing n before with
  | zero => exact failsOnly_malformed misfits
  | succ depth ih =>
      unfold readFrom
      split
      · split
        · refine .bind failsOnly_takeGiven fun given =>
            .bind (.foldlM _ (failsOnly_takeEntry misfits parts) _) fun p =>
              .bind (.modify _) fun _ => ?_
          split
          · exact .pure _
          · exact (failsOnly_merge misfits (failsOnly_untyped misfits) ih _ _ _).bind
              fun _ => .pure _
        · exact .bind (.note _) fun _ => .pure _
      · refine (failsOnly_scalarValue misfits _ _).bind fun value => ?_
        split
        · exact .pure _
        · exact Reader.failsOnly_refuse _ _ _
      · exact Reader.failsOnly_refuse _ _ _

/-- A record has the faults of its parts. -/
theorem failsOnly_reader
    (parts : ∀ key set, type.set key = some set → ∀ n r, FailsOnly P (set n r)) (n : Node)
    (before : R) : FailsOnly P (type.reader n before) :=
  .bind .read fun s => failsOnly_readFrom misfits parts s.depth n before

end RecordType

end Documents

end ApiCompiler.Yaml
