import ApiCompiler.Proofs.Convert.Recording
import ApiCompiler.Proofs.Keyed
import ApiCompiler.Proofs.Text
import Mathlib.Data.Finset.Card
import Mathlib.Data.List.Nodup

/-!
# Trackers of imports

Several trackers record imports by calls in any order, also from one another. A tracker is a
finite set of imports (`recorded`): a call adds what it brings, less what is elided, and what a
tracker tells depends on its own source and on the set only. Histories that bring the same are
therefore not told apart.
-/

namespace ApiCompiler.Imports

open Text

/-! ## The recorded imports -/

/-- Everything that is recorded. -/
def recorded (im : Imports) : Finset Import :=
  (im.modules.map Import.module ++ im.symbols.map fun p => Import.symbol p.1 p.2).toFinset

@[simp]
theorem mem_recorded_iff {im : Imports} {i : Import} : i ∈ im.recorded ↔ im.Holds i := by
  cases i with
  | module source => simp [recorded, Holds]
  | symbol source name => simp [recorded, Holds]

/-- Nothing is recorded twice, and every symbol has a name. -/
structure IsSound (im : Imports) : Prop where
  modules : im.modules.Nodup
  symbols : im.symbols.Nodup
  named : ∀ p ∈ im.symbols, p.2 ≠ ""

theorem nodup_addNew {α : Type} [BEq α] [LawfulBEq α] {as : List α} (distinct : as.Nodup)
    (a : α) : (addNew a as).Nodup := by
  rw [addNew]
  by_cases present : a ∈ as
  · rw [if_pos (List.contains_iff_mem.mpr present)]
    exact distinct
  · rw [if_neg (present ∘ List.contains_iff_mem.mp), List.nodup_append']
    refine ⟨distinct, List.nodup_singleton a, ?_⟩
    simpa using present

namespace IsSound

variable {im other : Imports}

theorem new (self : String) : (Imports.new self).IsSound :=
  ⟨List.nodup_nil, List.nodup_nil, nofun⟩

theorem addModule (sound : im.IsSound) (source : String) : (im.addModule source).IsSound := by
  rw [Imports.addModule]
  split
  · exact sound
  · exact ⟨nodup_addNew sound.modules source, sound.symbols, sound.named⟩

theorem add (sound : im.IsSound) (source symbol : String) :
    (im.add source symbol).IsSound := by
  rw [Imports.add]
  split
  · exact sound.addModule source
  · rename_i named
    split
    · exact sound
    · refine ⟨sound.modules, nodup_addNew sound.symbols _, ?_⟩
      intro p mem
      rcases mem_addNew_iff.mp mem with mem | rfl
      · exact sound.named p mem
      · exact named ∘ beq_iff_eq.mpr

theorem merge (sound : im.IsSound) (other : Imports) : (im.merge other).IsSound := by
  apply List.foldlRecOn
  · apply List.foldlRecOn
    · exact sound
    · exact fun im sound source _ => sound.addModule source
  · exact fun im sound p _ => sound.add p.1 p.2

end IsSound

/-- An import from a source is recorded: the source is not empty, and it is not the own one. -/
def Keeps (self source : String) : Prop := source ≠ "" ∧ (self = "" ∨ source ≠ self)

instance (self source : String) : Decidable (Keeps self source) :=
  inferInstanceAs (Decidable (_ ∧ _))

theorem isElided_eq_false_iff {im : Imports} {source : String} :
    im.isElided source = false ↔ Keeps im.self source := by
  by_cases own : im.self = "" <;> simp [isElided, Keeps, own]

/-- Merging records what the other tracker holds. -/
theorem grows_merge {among : Import → Prop} (im : Imports) {other : Imports}
    (sound : other.IsSound) : im.Grows among (im.merge other) other.Holds := by
  have sources : im.Grows among (other.modules.foldl Imports.addModule im) _ :=
    .foldl (fun source _ im => im.grows_addModule source) im
  have symbols : Grows among _ (im.merge other) _ :=
    .foldl (fun p _ im => im.grows_add p.1 p.2) (other.modules.foldl Imports.addModule im)
  apply (sources.trans symbols).of_iff
  intro i _
  have read : (∃ p ∈ other.symbols, i = .of p.1 p.2) ↔
      ∃ p ∈ other.symbols, i = .symbol p.1 p.2 := by
    apply exists_congr
    intro p
    apply and_congr_right
    intro mem
    rw [Import.of_eq_symbol (sound.named p mem)]
  rw [read]
  cases i with
  | module source => simp [Holds]
  | symbol source name => simp [Holds]

/-! ## What a tracker tells -/

/-- Two trackers tell the same. -/
structure Agree (im other : Imports) : Prop where
  self : im.self = other.self
  has : im.has = other.has
  modules : im.sortedModules = other.sortedModules
  groups : im.groups = other.groups
  size : im.size = other.size

theorem has_iff {im : Imports} {source symbol : String} :
    im.has source symbol = true ↔ .of source symbol ∈ im.recorded := by
  rw [mem_recorded_iff, has, Import.of]
  by_cases empty : symbol = ""
  · rw [if_pos (beq_iff_eq.mpr empty), if_pos empty]
    exact List.contains_iff_mem
  · rw [if_neg (empty ∘ beq_iff_eq.mp), if_neg empty]
    exact List.contains_iff_mem

theorem mem_sources_iff {im : Imports} {source : String} :
    source ∈ im.sources ↔ ∃ name, (source, name) ∈ im.symbols := by
  simp [sources, mem_sort_iff, List.mem_eraseDups]

theorem mem_symbolsOf_iff {im : Imports} {source name : String} :
    name ∈ im.symbolsOf source ↔ (source, name) ∈ im.symbols := by
  simp [symbolsOf, mem_sort_iff]

/-- Everything that is recorded, as the lists of a tracker show it. -/
def listing (im : Imports) : List Import :=
  im.sortedModules.map Import.module ++
    im.groups.flatMap fun g => g.symbols.map (Import.symbol g.source)

theorem toFinset_listing (im : Imports) : im.listing.toFinset = im.recorded := by
  ext i
  rw [mem_recorded_iff, List.mem_toFinset, listing, groups, List.flatMap_map]
  cases i with
  | module source => simp [Holds, sortedModules, mem_sort_iff]
  | symbol source name =>
      simp only [List.mem_append, List.mem_map, reduceCtorEq, and_false, exists_false, false_or,
        List.mem_flatMap, mem_sources_iff, mem_symbolsOf_iff, Import.symbol.injEq, Holds]
      constructor
      · rintro ⟨_, _, _, mem, rfl, rfl⟩
        exact mem
      · intro mem
        exact ⟨source, ⟨name, mem⟩, name, mem, rfl, rfl⟩

namespace IsSound

variable {im other : Imports}

theorem size_eq (sound : im.IsSound) : im.size = im.recorded.card := by
  have distinct : (im.modules.map Import.module ++
      im.symbols.map fun p => Import.symbol p.1 p.2).Nodup := by
    rw [List.nodup_append']
    refine ⟨sound.modules.map ?_, sound.symbols.map ?_, ?_⟩
    · intro a b same
      exact Import.module.inj same
    · rintro ⟨a, m⟩ ⟨b, n⟩ same
      rcases Import.symbol.inj same with ⟨rfl, rfl⟩
      rfl
    · intro i first second
      rcases List.mem_map.mp first with ⟨_, _, rfl⟩
      rcases List.mem_map.mp second with ⟨_, _, same⟩
      exact nomatch same
  rw [recorded, List.toFinset_card_of_nodup distinct, size]
  simp

theorem nodup_symbolsOf (sound : im.IsSound) (source : String) :
    ((im.symbols.filter (·.1 == source)).map (·.2)).Nodup := by
  apply List.Nodup.map_on _ (sound.symbols.filter _)
  rintro ⟨a, m⟩ first ⟨b, n⟩ second same
  simp only [List.mem_filter, beq_iff_eq] at first second
  rw [first.2, second.2]
  exact congrArg (source, ·) same

theorem pairwise_modules (sound : im.IsSound) : im.sortedModules.Pairwise (· < ·) :=
  pairwise_lt_sort sound.modules

theorem pairwise_sources : im.sources.Pairwise (· < ·) :=
  pairwise_lt_sort (Keyed.nodup_eraseDups _)

theorem pairwise_groups : im.groups.Pairwise fun g h => g.source < h.source := by
  rw [groups, List.pairwise_map]
  exact pairwise_sources

/-- A group has symbols, in strictly increasing order. -/
theorem symbols_of_mem_groups (sound : im.IsSound) {g : ImportGroup} (mem : g ∈ im.groups) :
    g.symbols ≠ [] ∧ g.symbols.Pairwise (· < ·) := by
  rcases List.mem_map.mp mem with ⟨source, inside, rfl⟩
  rcases mem_sources_iff.mp inside with ⟨name, recorded⟩
  exact ⟨List.ne_nil_of_mem (mem_symbolsOf_iff.mpr recorded),
    pairwise_lt_sort (sound.nodup_symbolsOf source)⟩

/-- The lists of a tracker show nothing twice. -/
theorem nodup_listing (sound : im.IsSound) : im.listing.Nodup := by
  have below {names : List String} (sorted : names.Pairwise (· < ·)) : names.Nodup := by
    apply sorted.imp
    rintro a _ less rfl
    exact Std.lt_irrefl less
  rw [listing, groups, List.flatMap_map, List.nodup_append', List.nodup_flatMap]
  refine ⟨(below sound.pairwise_modules).map ?_, ⟨?_, ?_⟩, ?_⟩
  · intro a b same
    exact Import.module.inj same
  · intro source _
    apply (below (pairwise_lt_sort (sound.nodup_symbolsOf source))).map
    intro a b same
    exact (Import.symbol.inj same).2
  · apply (below pairwise_sources).imp
    intro a b different i first second
    rcases List.mem_map.mp first with ⟨_, _, rfl⟩
    rcases List.mem_map.mp second with ⟨_, _, same⟩
    exact different (Import.symbol.inj same).1.symm
  · intro i first second
    rcases List.mem_map.mp first with ⟨_, _, rfl⟩
    rcases List.mem_flatMap.mp second with ⟨_, _, inside⟩
    rcases List.mem_map.mp inside with ⟨_, _, same⟩
    exact nomatch same

/-- What a tracker tells is determined by its own source and by what is recorded. -/
theorem agree (sound : im.IsSound) (sound' : other.IsSound) (self : im.self = other.self)
    (same : im.recorded = other.recorded) : im.Agree other := by
  have modules : im.modules.Perm other.modules := by
    rw [List.perm_ext_iff_of_nodup sound.modules sound'.modules]
    intro source
    simpa [Holds] using Finset.ext_iff.mp same (.module source)
  have symbols : im.symbols.Perm other.symbols := by
    rw [List.perm_ext_iff_of_nodup sound.symbols sound'.symbols]
    rintro ⟨source, name⟩
    simpa [Holds] using Finset.ext_iff.mp same (.symbol source name)
  have sources : im.sources = other.sources := by
    apply sort_eq_of_perm
    rw [List.perm_ext_iff_of_nodup (Keyed.nodup_eraseDups _) (Keyed.nodup_eraseDups _)]
    intro source
    rw [List.mem_eraseDups, List.mem_eraseDups]
    exact (symbols.map _).mem_iff
  refine ⟨self, ?_, sort_eq_of_perm modules, ?_, ?_⟩
  · funext source symbol
    rw [Bool.eq_iff_iff, has_iff, has_iff, same]
  · rw [groups, groups, sources]
    apply List.map_congr_left
    intro source _
    exact congrArg (ImportGroup.mk source) (sort_eq_of_perm ((symbols.filter _).map _))
  · rw [sound.size_eq, sound'.size_eq, same]

end IsSound

/-! ## Histories -/

section

variable {ι : Type}

/-- A call on one of several trackers. -/
inductive Call (ι : Type) where
  | addModule (target : ι) (source : String)
  | add (target : ι) (source symbol : String)
  | merge (target other : ι)

namespace Call

/-- The tracker that a call is made on. -/
def target : Call ι → ι
  | addModule target _ => target
  | add target _ _ => target
  | merge target _ => target

/-- A call that does not merge. -/
def IsAddition : Call ι → Prop
  | addModule _ _ => True
  | add _ _ _ => True
  | merge _ _ => False

/-- What a call brings to its tracker, given what every tracker holds. -/
def brings (held : ι → Finset Import) : Call ι → Finset Import
  | addModule _ source => {.module source}
  | add _ source symbol => {.of source symbol}
  | merge _ other => held other

end Call

variable [DecidableEq ι]

/-- The trackers after a call. -/
def perform (trackers : ι → Imports) (call : Call ι) : ι → Imports :=
  Function.update trackers call.target <|
    match call with
    | .addModule target source => (trackers target).addModule source
    | .add target source symbol => (trackers target).add source symbol
    | .merge target other => (trackers target).merge (trackers other)

/-- The trackers of files with given sources after some calls. -/
def run (selves : ι → String) (calls : List (Call ι)) : ι → Imports :=
  calls.foldl perform fun i => new (selves i)

/-- What every tracker holds after a call: its tracker receives what the call brings, less what is
elided there. -/
def receive (selves : ι → String) (held : ι → Finset Import) (call : Call ι) :
    ι → Finset Import :=
  Function.update held call.target
    (held call.target ∪ {i ∈ call.brings held | Keeps (selves call.target) i.source})

/-- What every tracker holds after some calls. -/
def heldAfter (selves : ι → String) (calls : List (Call ι)) : ι → Finset Import :=
  calls.foldl (receive selves) fun _ => ∅

/-- Trackers are sound, have given sources and hold given imports. -/
structure Track (selves : ι → String) (held : ι → Finset Import) (trackers : ι → Imports) :
    Prop where
  sound (i : ι) : (trackers i).IsSound
  self (i : ι) : (trackers i).self = selves i
  recorded (i : ι) : (trackers i).recorded = held i

variable {selves : ι → String} {held : ι → Finset Import} {trackers : ι → Imports}

theorem Track.perform (track : Track selves held trackers) (call : Call ι) :
    Track selves (receive selves held call) (perform trackers call) := by
  have change (im : Imports) (sound : im.IsSound)
      (grows : (trackers call.target).Grows (fun _ => True) im (· ∈ call.brings held)) :
      Track selves (receive selves held call) (Function.update trackers call.target im) := by
    have recorded : im.recorded =
        held call.target ∪ {i ∈ call.brings held | Keeps (selves call.target) i.source} := by
      ext i
      rw [mem_recorded_iff, grows.holds_iff i trivial, isElided_eq_false_iff, track.self,
        ← mem_recorded_iff, track.recorded, Finset.mem_union, Finset.mem_filter, and_comm]
    constructor
    all_goals
      intro i
      rw [Function.update_apply]
      split
    · exact sound
    · exact track.sound i
    · rename_i same
      rw [same, grows.self, track.self]
    · exact track.self i
    · rename_i same
      rw [same, recorded, receive, Function.update_self]
    · rename_i other
      rw [track.recorded, receive, Function.update_of_ne other]
  cases call with
  | addModule target source =>
      apply change _ ((track.sound target).addModule source)
      exact ((trackers target).grows_addModule source).of_iff fun i _ => by simp [Call.brings]
  | add target source symbol =>
      apply change _ ((track.sound target).add source symbol)
      exact ((trackers target).grows_add source symbol).of_iff fun i _ => by simp [Call.brings]
  | merge target other =>
      apply change _ ((track.sound target).merge _)
      apply ((trackers target).grows_merge (track.sound other)).of_iff
      intro i _
      rw [Call.brings, ← track.recorded, mem_recorded_iff]

theorem Track.foldl (track : Track selves held trackers) (calls : List (Call ι)) :
    Track selves (calls.foldl (receive selves) held)
      (calls.foldl Imports.perform trackers) := by
  induction calls generalizing held trackers with
  | nil => exact track
  | cons call calls ih => exact ih (track.perform call)

/-- Trackers hold what was brought to them. -/
theorem track_run (selves : ι → String) (calls : List (Call ι)) :
    Track selves (heldAfter selves calls) (run selves calls) :=
  Track.foldl ⟨fun i => .new (selves i), fun _ => rfl, fun _ => rfl⟩ calls

/-- Calls after which the same is held cannot be told apart, now or later. -/
theorem agree_run {first second : List (Call ι)}
    (same : heldAfter selves first = heldAfter selves second) (later : List (Call ι)) (i : ι) :
    (run selves (first ++ later) i).Agree (run selves (second ++ later) i) := by
  have after := track_run selves (first ++ later)
  have after' := track_run selves (second ++ later)
  have held : heldAfter selves (first ++ later) = heldAfter selves (second ++ later) := by
    rw [heldAfter, heldAfter, List.foldl_append, List.foldl_append]
    exact congrArg (later.foldl (receive selves)) same
  apply (after.sound i).agree (after'.sound i)
  · rw [after.self, after'.self]
  · rw [after.recorded, after'.recorded, held]

/-! ### What calls bring -/

theorem mem_receive_iff {call : Call ι} {j : ι} {i : Import} :
    i ∈ receive selves held call j ↔
      i ∈ held j ∨ j = call.target ∧ i ∈ call.brings held ∧ Keeps (selves j) i.source := by
  rw [receive, Function.update_apply]
  split
  · rename_i same
    subst same
    simp
  · rename_i other
    simp [other]

/-- Nothing that is held is lost. -/
theorem mem_foldl_receive {calls : List (Call ι)} {j : ι} {i : Import} (mem : i ∈ held j) :
    i ∈ calls.foldl (receive selves) held j := by
  induction calls generalizing held with
  | nil => exact mem
  | cons call calls ih => exact ih (mem_receive_iff.mpr (Or.inl mem))

/-- Calls on other trackers leave a tracker as it is. -/
theorem foldl_receive_eq {calls : List (Call ι)} {j : ι} (others : ∀ c ∈ calls, c.target ≠ j) :
    calls.foldl (receive selves) held j = held j := by
  induction calls generalizing held with
  | nil => rfl
  | cons call calls ih =>
      rw [List.forall_mem_cons] at others
      rw [List.foldl_cons, ih others.2, receive, Function.update_of_ne (Ne.symm others.1)]

/-- What additions bring does not depend on their order or number. -/
theorem mem_foldl_additions_iff {calls : List (Call ι)} (additions : ∀ c ∈ calls, c.IsAddition)
    {j : ι} {i : Import} : i ∈ calls.foldl (receive selves) held j ↔
      i ∈ held j ∨
        ∃ c ∈ calls, j = c.target ∧ i ∈ c.brings (fun _ => ∅) ∧ Keeps (selves j) i.source := by
  have bring (call : Call ι) (addition : call.IsAddition) (held : ι → Finset Import) :
      call.brings held = call.brings fun _ => ∅ := by
    cases call with
    | addModule | add => rfl
    | merge target other => exact addition.elim
  induction calls generalizing held with
  | nil => simp
  | cons call calls ih =>
      rw [List.forall_mem_cons] at additions
      apply (ih additions.2).trans
      rw [mem_receive_iff, bring call additions.1 held, List.exists_mem_cons_iff, or_assoc]

/-- Merging again what was not changed since brings nothing. -/
theorem foldl_receive_merge_again (held : ι → Finset Import) (target other : ι)
    {between : List (Call ι)} (unchanged : ∀ c ∈ between, c.target ≠ other) :
    (Call.merge target other :: between ++ [Call.merge target other]).foldl (receive selves) held =
      (Call.merge target other :: between).foldl (receive selves) held := by
  rw [List.foldl_append]
  funext j
  ext i
  rw [List.foldl_cons, List.foldl_nil, mem_receive_iff]
  constructor
  · rintro (mem | ⟨rfl, brought, kept⟩)
    · exact mem
    · -- what the second call brings was held by `other` at the first one already
      change i ∈ between.foldl (receive selves) (receive selves held (.merge j other)) other
        at brought
      rw [foldl_receive_eq unchanged] at brought
      have earlier : i ∈ held other := by
        rcases mem_receive_iff.mp brought with mem | ⟨_, mem, _⟩
        · exact mem
        · exact mem
      have received : i ∈ receive selves held (.merge j other) j :=
        mem_receive_iff.mpr (Or.inr ⟨rfl, earlier, kept⟩)
      rw [List.foldl_cons]
      exact mem_foldl_receive received
  · exact Or.inl

/-- Two trackers can be merged into one in either order. -/
theorem receive_merge_comm (held : ι → Finset Import) (target first second : ι) :
    receive selves (receive selves held (.merge target first)) (.merge target second) =
      receive selves (receive selves held (.merge target second)) (.merge target first) := by
  funext j
  ext i
  simp only [mem_receive_iff, Call.target, Call.brings]
  tauto

end

/-- After any calls on any number of trackers, each holds what was added or merged into it from a
source that is neither empty nor its own; what it tells are the members, the number, and the lists
of this set, which are in strict order and show every import once. Additions may be made in any
order and any number of times, a merge may walk the other tracker in any order, merging again what
did not change since adds nothing, and two trackers may be merged in either order: no tracker tells
the difference, then or after any later calls. -/
theorem trackers_exact {ι : Type} [DecidableEq ι] (selves : ι → String) (calls : List (Call ι)) :
    let trackers := run selves calls
    (∀ i, (trackers i).self = selves i ∧ (trackers i).recorded = heldAfter selves calls i) ∧
      (∀ i source symbol,
        (trackers i).has source symbol = true ↔ .of source symbol ∈ (trackers i).recorded) ∧
      (∀ i, (trackers i).size = (trackers i).recorded.card) ∧
      (∀ i, (trackers i).sortedModules.Pairwise (· < ·) ∧
        ∀ source, source ∈ (trackers i).sortedModules ↔
          .module source ∈ (trackers i).recorded) ∧
      (∀ i, ((trackers i).groups.Pairwise fun g h => g.source < h.source) ∧
        ∀ g ∈ (trackers i).groups, g.symbols ≠ [] ∧ g.symbols.Pairwise (· < ·)) ∧
      (∀ i, (trackers i).listing.Nodup ∧
        (trackers i).listing.toFinset = (trackers i).recorded) ∧
      (∀ first second : List (Call ι), (∀ c ∈ first, c.IsAddition) → (∀ c ∈ second, c.IsAddition) →
        (∀ c, c ∈ first ↔ c ∈ second) → ∀ later i,
          (run selves (calls ++ first ++ later) i).Agree
            (run selves (calls ++ second ++ later) i)) ∧
      (∀ i j modules symbols, modules.Perm (trackers j).modules →
        symbols.Perm (trackers j).symbols →
          ((trackers i).merge ⟨(trackers j).self, modules, symbols⟩).Agree
            ((trackers i).merge (trackers j))) ∧
      (∀ i j between, (∀ c ∈ between, c.target ≠ j) → ∀ later k,
        (run selves (calls ++ (.merge i j :: between ++ [.merge i j]) ++ later) k).Agree
          (run selves (calls ++ (.merge i j :: between) ++ later) k)) ∧
      ∀ i j k later l,
        (run selves (calls ++ [.merge i j, .merge i k] ++ later) l).Agree
          (run selves (calls ++ [.merge i k, .merge i j] ++ later) l) := by
  intro trackers
  have track : Track selves (heldAfter selves calls) trackers := track_run selves calls
  have after (more : List (Call ι)) : heldAfter selves (calls ++ more) =
      more.foldl (receive selves) (heldAfter selves calls) := List.foldl_append
  refine ⟨fun i => ⟨track.self i, track.recorded i⟩, fun i source symbol => has_iff,
    fun i => (track.sound i).size_eq, fun i => ⟨(track.sound i).pairwise_modules, ?_⟩,
    fun i => ⟨IsSound.pairwise_groups, fun g => (track.sound i).symbols_of_mem_groups⟩,
    fun i => ⟨(track.sound i).nodup_listing, toFinset_listing _⟩, ?_, ?_, ?_, ?_⟩
  · intro source
    rw [mem_recorded_iff, sortedModules, mem_sort_iff]
    rfl
  · intro first second additions additions' same later i
    apply agree_run
    rw [after, after]
    funext j
    ext i
    rw [mem_foldl_additions_iff additions, mem_foldl_additions_iff additions']
    simp only [same]
  · intro i j modules symbols perm perm'
    have walked : (Imports.mk (trackers j).self modules symbols).IsSound :=
      ⟨perm.nodup_iff.mpr (track.sound j).modules, perm'.nodup_iff.mpr (track.sound j).symbols,
        fun p mem => (track.sound j).named p (perm'.mem_iff.mp mem)⟩
    have grows : Grows (fun _ => True) _ _ _ := (trackers i).grows_merge walked
    have grows' : Grows (fun _ => True) _ _ _ := (trackers i).grows_merge (track.sound j)
    apply ((track.sound i).merge _).agree ((track.sound i).merge _)
    · rw [grows.self, grows'.self]
    · ext import_
      rw [mem_recorded_iff, mem_recorded_iff, grows.holds_iff _ trivial, grows'.holds_iff _ trivial]
      cases import_ with
      | module source => simp only [Holds, perm.mem_iff]
      | symbol source name => simp only [Holds, perm'.mem_iff]
  · intro i j between unchanged later k
    apply agree_run
    rw [after, after, foldl_receive_merge_again _ i j unchanged]
  · intro i j k later l
    apply agree_run
    rw [after, after]
    exact receive_merge_comm (heldAfter selves calls) i j k

end ApiCompiler.Imports
