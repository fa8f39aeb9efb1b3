import ApiCompiler.Proofs.Fallible
import ApiCompiler.Yaml.Fit

/-!
# What readings return

A reading depends on its surroundings and keeps a tally. `Fit.Returns` relates both to the value
of a reading that is not ended by a fault, and takes composed readings apart; the readers of
ordered maps and of optional values are then followed by what they make of a property.
-/

namespace ApiCompiler.Yaml

open Fallible

namespace Fit

variable {α β : Type} {s : Surroundings} {t t' : Tally}

/-- A reading returns a value and leaves a tally. -/
def Returns (x : Fit α) (s : Surroundings) (t : Tally) (a : α) (t' : Tally) : Prop :=
  x s t = .ok (a, t')

@[simp]
theorem returns_pure_iff {a b : α} : Returns (pure b) s t a t' ↔ b = a ∧ t = t' := by
  change Except.ok (b, t) = Except.ok (a, t') ↔ _
  rw [Except.ok.injEq, Prod.mk.injEq]

theorem returns_bind_iff {x : Fit α} {f : α → Fit β} {b : β} :
    Returns (x >>= f) s t b t' ↔ ∃ a u, x.Returns s t a u ∧ (f a).Returns s u b t' := by
  change (x s t >>= fun v => f v.1 s v.2) = .ok (b, t') ↔ _
  rw [bind_eq_ok_iff, Prod.exists]
  rfl

@[simp]
theorem returns_read_iff {a : Surroundings} : Returns read s t a t' ↔ s = a ∧ t = t' := by
  change Except.ok (s, t) = Except.ok (a, t') ↔ _
  rw [Except.ok.injEq, Prod.mk.injEq]

@[simp]
theorem returns_get_iff {a : Tally} : Returns get s t a t' ↔ t = a ∧ t = t' := by
  change Except.ok (t, t) = Except.ok (a, t') ↔ _
  rw [Except.ok.injEq, Prod.mk.injEq]

@[simp]
theorem returns_set_iff {u : Tally} {a : PUnit} : Returns (set u) s t a t' ↔ u = t' := by
  change Except.ok (PUnit.unit, u) = Except.ok (a, t') ↔ _
  rw [Except.ok.injEq, Prod.mk.injEq]
  exact and_iff_right rfl

@[simp]
theorem returns_modify_iff {f : Tally → Tally} {a : PUnit} :
    Returns (modify f) s t a t' ↔ f t = t' := by
  change Except.ok (PUnit.unit, f t) = Except.ok (a, t') ↔ _
  rw [Except.ok.injEq, Prod.mk.injEq]
  exact and_iff_right rfl

@[simp]
theorem returns_withReader_iff {f : Surroundings → Surroundings} {x : Fit α} {a : α} :
    Returns (withReader f x) s t a t' ↔ x.Returns (f s) t a t' := Iff.rfl

@[simp]
theorem not_returns_fail {e : Error} {a : α} : ¬Returns (fail e) s t a t' :=
  fun returned => nomatch returned

@[simp]
theorem not_returns_malformed {a : α} : ¬Returns malformed s t a t' := not_returns_fail

@[simp]
theorem returns_note_iff {lines : List String} {a : Unit} :
    Returns (note lines) s t a t' ↔ { t with misfits := t.misfits ++ lines } = t' :=
  returns_modify_iff

theorem returns_scalarValue_iff {tag text : String} {value : Value} :
    Returns (scalarValue tag text) s t value t' ↔
      (∃ found, resolve tag text = .ok (found, value)) ∧ t = t' := by
  rw [scalarValue]
  cases result : resolve tag text with
  | error e => simp
  | ok meant =>
      obtain ⟨found, value'⟩ := meant
      simp

/-- Counting a node leaves the given keys. -/
theorem given_of_count {a : Unit} (counted : Returns count s t a t') : t'.given = t.given := by
  have stored (u : Tally)
      (checked : Returns (if u.isExcessive then malformed >>= fun _ : Unit => set u else set u)
        s t a t') : u = t' := by
    split at checked
    · obtain ⟨_, _, ended, -⟩ := returns_bind_iff.mp checked
      exact absurd ended not_returns_malformed
    · exact returns_set_iff.mp checked
  simp only [count, returns_bind_iff, returns_read_iff, returns_get_iff] at counted
  obtain ⟨_, _, ⟨rfl, rfl⟩, _, _, ⟨rfl, rfl⟩, checked⟩ := counted
  exact stored _ checked ▸ rfl

/-- What holds of a value and a tally, and is kept by every step, holds after a sequence of
steps. -/
theorem foldlM_induction {σ ι : Type} {step : σ → ι → Fit σ} {motive : σ → Tally → Prop}
    {items : List ι} (keeps : ∀ i ∈ items, ∀ a u a' u', motive a u →
      (step a i).Returns s u a' u' → motive a' u')
    {a a' : σ} (holds : motive a t) (returned : (items.foldlM step a).Returns s t a' t') :
    motive a' t' := by
  induction items generalizing a t with
  | nil =>
      obtain ⟨rfl, rfl⟩ := returns_pure_iff.mp returned
      exact holds
  | cons i rest ih =>
      rw [List.foldlM_cons, returns_bind_iff] at returned
      obtain ⟨middle, u, first, others⟩ := returned
      exact ih (fun j mem => keeps j (List.mem_cons_of_mem i mem))
        (keeps i List.mem_cons_self a t middle u holds first) others

/-- Every item of a list gives a result. -/
theorem exists_of_mapM {ι : Type} {f : ι → Fit α} {items : List ι} {results : List α}
    (returned : (items.mapM f).Returns s t results t') {i : ι} (mem : i ∈ items) :
    ∃ a ∈ results, ∃ u u', (f i).Returns s u a u' := by
  induction items generalizing t results with
  | nil => exact nomatch mem
  | cons head rest ih =>
      rw [List.mapM_cons, returns_bind_iff] at returned
      obtain ⟨a, u, first, others⟩ := returned
      obtain ⟨more, u', tail, done⟩ := returns_bind_iff.mp others
      obtain ⟨rfl, rfl⟩ := returns_pure_iff.mp done
      rcases List.mem_cons.mp mem with rfl | mem
      · exact ⟨a, List.mem_cons_self, t, u, first⟩
      · obtain ⟨a', inside, result⟩ := ih tail mem
        exact ⟨a', List.mem_cons_of_mem a inside, result⟩

/-- A reading by itself starts without given keys. -/
theorem returns_of_alone {x : Fit α} {a : α} (read : x.alone s = .ok a) :
    ∃ s' t', x.Returns s' .start a t' := by
  obtain ⟨⟨value, tally⟩, returned, ended⟩ := bind_eq_ok_iff.mp read
  dsimp only at ended
  split at ended
  · cases ended
    exact ⟨_, tally, returned⟩
  · exact nomatch ended

end Fit

/-! ## Readers -/

namespace Reader

open Fit

variable {α : Type} {reader : Reader α} {P Q : α → Prop}

/-- A reading starts at the node itself or at the one that an alias stands for. -/
theorem returns_of_visit {s : Surroundings} {t t' : Tally} {n : Node} {before : α} {v : α × Bool}
    (returned : (reader.visit n before).Returns s t v t') :
    ∃ s' u, s'.anchored = s.anchored ∧ u.given = t.given ∧
      (reader (targetIn s n) before).Returns s' u v t' := by
  obtain ⟨_, u, counted, entered⟩ := returns_bind_iff.mp returned
  have given := given_of_count counted
  split at entered
  · rename_i number _
    obtain ⟨_, _, here, entered⟩ := returns_bind_iff.mp entered
    obtain ⟨rfl, rfl⟩ := returns_read_iff.mp here
    split at entered
    · exact absurd entered not_returns_malformed
    · rw [returns_withReader_iff] at entered
      obtain ⟨_, u', again, entered⟩ := returns_bind_iff.mp entered
      exact ⟨{ s with entered := number :: s.entered }, u', rfl,
        (given_of_count again).trans given, entered⟩
  · rename_i other
    have target : targetIn s n = n := by
      cases n with
      | aliasOf line name number target => exact absurd rfl (other line name number target)
      | scalar | sequence | mapping => rfl
    rw [target]
    exact ⟨s, u, rfl, given, entered⟩

/-- From values with one property a reader makes values with another. -/
def Takes (reader : Reader α) (P Q : α → Prop) : Prop :=
  ∀ s t n before v t', P before → (reader n before).Returns s t v t' → Q v.1

theorem Takes.visit (takes : reader.Takes P Q) : reader.visit.Takes P Q := by
  intro s t n before v t' holds returned
  obtain ⟨s', u, -, -, returned⟩ := returns_of_visit returned
  exact takes s' u _ before v t' holds returned

/-- A node that is refused leaves the value and the given keys. -/
theorem returns_refuse {type : String} {s : Surroundings} {t t' : Tally} {n : Node} {before : α}
    {v : α × Bool} (returned : (refuse type n before).Returns s t v t') :
    v = (before, false) ∧ t'.given = t.given := by
  have noted {x : Fit Unit} (given : ∀ u u', x.Returns s u () u' → u'.given = u.given)
      (returned : Returns (x >>= fun _ => pure (before, false)) s t v t') :
      v = (before, false) ∧ t'.given = t.given := by
    obtain ⟨_, u, first, done⟩ := returns_bind_iff.mp returned
    obtain ⟨rfl, rfl⟩ := returns_pure_iff.mp done
    exact ⟨rfl, given t u first⟩
  have note (lines : List String) (u u' : Tally) (returned : (note lines).Returns s u () u') :
      u'.given = u.given := returns_note_iff.mp returned ▸ rfl
  unfold refuse at returned
  split at returned
  · split at returned
    · exact noted (note _) returned
    · exact noted (note _) returned
  · exact noted (note _) returned

/-- A value that is read by itself. -/
theorem Takes.of_alone (takes : reader.Takes P Q) {start : α} (holds : P start)
    {s : Surroundings} {n : Node} {a : α} (read : reader.alone start s n = .ok a) : Q a := by
  obtain ⟨v, inside, same⟩ := bind_eq_ok_iff.mp read
  obtain ⟨s', t', returned⟩ := returns_of_alone inside
  exact Except.ok.inj same ▸ takes.visit _ _ _ _ _ _ holds returned

/-- A value that is read from a text. -/
theorem Takes.of_ofText (takes : reader.Takes P Q) {start : α} (holds : P start)
    (default : Q start) {strict : Bool} {text : String}
    {parse : String → Except Error (Option Document)} {a : α}
    (read : reader.ofText start strict text parse = .ok a) : Q a := by
  obtain ⟨document, -, inside⟩ := bind_eq_ok_iff.mp read
  split at inside
  · cases inside
    exact default
  · obtain ⟨v, inside, same⟩ := bind_eq_ok_iff.mp inside
    obtain ⟨s', t', returned⟩ := returns_of_alone inside
    obtain ⟨_, u, -, returned⟩ := returns_bind_iff.mp returned
    exact Except.ok.inj same ▸ takes.visit _ _ _ _ _ _ holds returned

theorem takes_embedded {read : Surroundings → Node → Except Error α} (weaker : ∀ a, P a → Q a)
    (reads : ∀ s n a, read s n = .ok a → Q a) : (embedded read).Takes P Q := by
  intro s t n before v t' holds returned
  obtain ⟨_, u, here, returned⟩ := returns_bind_iff.mp returned
  obtain ⟨rfl, rfl⟩ := returns_read_iff.mp here
  split at returned
  · rename_i value read
    obtain ⟨rfl, -⟩ := returns_pure_iff.mp returned
    exact reads _ n value read
  · obtain ⟨_, _, -, returned⟩ := returns_bind_iff.mp returned
    obtain ⟨rfl, -⟩ := returns_pure_iff.mp returned
    exact weaker before holds
  · exact absurd returned not_returns_fail

/-- A value that a null removes. -/
theorem Takes.optional (takes : reader.Takes P Q) (weaker : ∀ a, P a → Q a) {type : String}
    {start : α} (holds : P start) :
    (reader.optional type start).Takes (fun a => ∀ b ∈ a, P b) (fun a => ∀ b ∈ a, Q b) := by
  intro s t n before v t' each returned
  unfold Reader.optional at returned
  split at returned
  · split at returned
    · obtain ⟨_, _, -, returned⟩ := returns_bind_iff.mp returned
      obtain ⟨rfl, -⟩ := returns_pure_iff.mp returned
      exact nofun
    · obtain ⟨rfl, -⟩ := returns_refuse returned
      exact fun b mem => weaker b (each b mem)
  · obtain ⟨v', _, inside, returned⟩ := returns_bind_iff.mp returned
    obtain ⟨rfl, -⟩ := returns_pure_iff.mp returned
    have first : P (before.getD start) := by
      cases before with
      | none => exact holds
      | some b => exact each b rfl
    intro b mem
    cases mem
    exact takes _ _ _ _ _ _ first inside

end Reader

/-! ## Ordered maps -/

section Maps

variable {V : Type} {P : V → Prop}

/-- Every value of a map has a property. -/
def Each (P : V → Prop) (m : OrderedMap V) : Prop := ∀ e ∈ m.entries, P e.2

theorem each_empty : Each P OrderedMap.empty := nofun

theorem Each.insert {m : OrderedMap V} (each : Each P m) {value : V} (holds : P value)
    (key : String) : Each P (m.insert key value) := by
  rintro ⟨k, v⟩ mem
  have found := OrderedMap.get?_eq_some_iff.mpr mem
  rw [OrderedMap.get?_insert] at found
  split at found
  · cases found
    exact holds
  · exact each _ (OrderedMap.get?_eq_some_iff.mp found)

theorem each_readEntries {readKey : Node → Except Error String} {read : Node → Except Error V}
    (reads : ∀ n v, read n = .ok v → P v) {m : OrderedMap V} (each : Each P m)
    (entries : List (Node × Node)) :
    Each P (MapReading.readEntries readKey read m entries).entries := by
  induction entries generalizing m with
  | nil => exact each
  | cons entry rest ih =>
      unfold MapReading.readEntries
      split
      · exact each
      · split
        · exact each
        · split
          · exact each
          · rename_i value read
            exact ih (each.insert (reads _ value read) _)

/-- The values of an ordered map are what reads them by themselves makes. -/
theorem takes_orderedMap {read : Surroundings → Node → Except Error V}
    (reads : ∀ s n v, read s n = .ok v → P v) :
    (Reader.orderedMap read).Takes (Each P) (Each P) := by
  refine Reader.takes_embedded (fun _ => id) fun s n m made => ?_
  unfold MapReading.toExcept at made
  split at made
  · cases made
    unfold MapReading.ofNode MapReading.ofMapping
    split
    · exact each_readEntries (reads s) each_empty _
    · exact each_empty
  · exact nomatch made

end Maps

end ApiCompiler.Yaml
