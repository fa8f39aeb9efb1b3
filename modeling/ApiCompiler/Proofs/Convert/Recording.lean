import ApiCompiler.Convert.Emit
import ApiCompiler.Proofs.Convert.Conversion
import ApiCompiler.Proofs.Datatype.RoundTrip
import ApiCompiler.Proofs.Project.Lookup

/-!
# What is imported

A computation that succeeds records what the types in the references that it converts
need: each custom type under the source of the module that declares it, and what the
target needs besides. `Records` says it records nothing else.
-/

namespace ApiCompiler

open Fallible

variable {α β ι : Type}

/-- An import of a file: a whole source, or a symbol of a source. -/
inductive Import where
  | module (source : String)
  | symbol (source name : String)
deriving DecidableEq

namespace Import

/-- Where it is imported from. -/
def source : Import → String
  | module source => source
  | symbol source _ => source

/-- What is recorded for a symbol; an empty symbol means the whole source. -/
def of (source name : String) : Import :=
  if name = "" then module source else symbol source name

/-- A symbol, not a whole source. -/
def IsSymbol : Import → Prop
  | module _ => False
  | symbol _ _ => True

theorem of_eq_symbol {source name : String} (named : name ≠ "") :
    of source name = symbol source name :=
  if_neg named

end Import

namespace Imports

variable {among : Import → Prop}

/-- Some imports have an import. -/
def Holds (im : Imports) : Import → Prop
  | .module source => source ∈ im.modules
  | .symbol source name => (source, name) ∈ im.symbols

theorem mem_addNew_iff [BEq α] [LawfulBEq α] {a b : α} {as : List α} :
    b ∈ addNew a as ↔ b ∈ as ∨ b = a := by
  rw [addNew]
  by_cases present : a ∈ as
  · rw [if_pos (List.contains_iff_mem.mpr present)]
    exact ⟨Or.inl, fun either => either.elim id fun same => same ▸ present⟩
  · rw [if_neg (present ∘ List.contains_iff_mem.mp), List.mem_append, List.mem_singleton]

/-- Between two moments exactly some imports were recorded, except those of an elided source.
Only the imports of one kind count. -/
structure Grows (among : Import → Prop) (before after : Imports) (new : Import → Prop) : Prop where
  self : after.self = before.self
  holds_iff (i : Import) : among i →
    (after.Holds i ↔ before.Holds i ∨ before.isElided i.source = false ∧ new i)

theorem isElided_congr {before after : Imports} (same : after.self = before.self)
    (source : String) : after.isElided source = before.isElided source := by
  rw [isElided, isElided, same]

namespace Grows

variable {before middle after : Imports} {first second : Import → Prop}

theorem refl (im : Imports) : im.Grows among im fun _ => False :=
  ⟨rfl, fun i _ => by rw [and_false, or_false]⟩

theorem trans (start : before.Grows among middle first) (next : middle.Grows among after second) :
    before.Grows among after fun i => first i ∨ second i := by
  refine ⟨next.self.trans start.self, fun i counts => ?_⟩
  rw [next.holds_iff i counts, start.holds_iff i counts, isElided_congr start.self, or_assoc,
    and_or_left]

theorem of_iff (grows : before.Grows among after first)
    (same : ∀ i, among i → (first i ↔ second i)) : before.Grows among after second :=
  ⟨grows.self, fun i counts => by rw [grows.holds_iff i counts, same i counts]⟩

theorem restrict {all : Import → Prop} (grows : before.Grows all after first)
    (fewer : ∀ i, among i → all i) : before.Grows among after first :=
  ⟨grows.self, fun i counts => grows.holds_iff i (fewer i counts)⟩

/-- What is recorded step by step. -/
theorem foldl {f : Imports → α → Imports} {new : α → Import → Prop} {as : List α}
    (each : ∀ a ∈ as, ∀ im : Imports, im.Grows among (f im a) (new a)) (im : Imports) :
    im.Grows among (as.foldl f im) fun i => ∃ a ∈ as, new a i := by
  induction as generalizing im with
  | nil => exact (refl im).of_iff fun i _ => by simp
  | cons a as ih =>
      rw [List.forall_mem_cons] at each
      exact ((each.1 im).trans (ih each.2 (f im a))).of_iff fun i _ => by simp

/-- Nothing of an elided source is recorded. -/
theorem of_elided {im : Imports} {i : Import} (elided : im.isElided i.source = true) :
    im.Grows among im (· = i) := by
  refine ⟨rfl, fun other _ => ⟨Or.inl, fun either => either.elim id ?_⟩⟩
  rintro ⟨kept, rfl⟩
  exact nomatch elided.symm.trans kept

/-- An import that is not elided is recorded, if it is the only one that is new. -/
theorem of_kept {im : Imports} {i : Import} (kept : im.isElided i.source = false)
    (self : after.self = im.self)
    (holds : ∀ other, after.Holds other ↔ im.Holds other ∨ other = i) :
    im.Grows among after (· = i) := by
  refine ⟨self, fun other _ => (holds other).trans (or_congr_right ⟨?_, And.right⟩)⟩
  rintro rfl
  exact ⟨kept, rfl⟩

end Grows

theorem grows_addModule (im : Imports) (source : String) :
    im.Grows among (im.addModule source) (· = .module source) := by
  rw [addModule]
  cases elided : im.isElided source with
  | true => exact .of_elided elided
  | false =>
      refine .of_kept elided rfl fun other => ?_
      cases other with
      | module s => simp [Holds, mem_addNew_iff]
      | symbol s name => simp [Holds]

theorem grows_add (im : Imports) (source name : String) :
    im.Grows among (im.add source name) (· = .of source name) := by
  rw [add, Import.of]
  by_cases empty : name = ""
  · rw [if_pos (beq_iff_eq.mpr empty), if_pos empty]
    exact im.grows_addModule source
  · rw [if_neg (empty ∘ beq_iff_eq.mp), if_neg empty]
    cases elided : im.isElided source with
    | true => exact .of_elided elided
    | false =>
        refine .of_kept elided rfl fun other => ?_
        cases other with
        | module s => simp [Holds]
        | symbol s n => simp [Holds, mem_addNew_iff]

end Imports

/-! ## Types -/

/-- The symbol of a custom type. -/
def TypeLocator.symbol (source : String → String) (loc : TypeLocator) : Import :=
  .symbol (source loc.moduleName) loc.typeName

/-- A node names a custom type, which is imported. -/
def Converter.Provides {T : Type} (c : Converter T) (node : Datatype) (i : Import) : Prop :=
  ∃ loc, c.locate node = some loc ∧ i = loc.symbol c.source

/-- Some type in a reference needs an import. -/
def Datatype.Wants (needs : Datatype → Import → Prop) (reference : String) (i : Import) : Prop :=
  ∃ d, Datatype.parse reference = .ok d ∧ ∃ node ∈ d.nodes, needs node i

theorem Project.findType_of_locate {p : Project} {node : Datatype} {loc : TypeLocator}
    (located : p.locate node = some loc) : p.findType node.name = some loc := by
  rw [locate] at located
  split at located
  · cases located
  · exact located

theorem Datatype.IsName.ne_empty {name : String} (isName : IsName name) : name ≠ "" := by
  rintro rfl
  exact isName.toList_ne_nil rfl

/-! ## One conversion -/

namespace Converter

variable {T : Type} {c : Converter T} {among : Import → Prop} {reference : String}

/-- Types are met in references that can be read. -/
theorem exists_parse_of_mem_visits {v : Visit T} (mem : v ∈ (c.convert reference).visits) :
    ∃ d, Datatype.parse reference = .ok d := by
  cases read : Datatype.parse reference with
  | ok d => exact ⟨d, rfl⟩
  | error e =>
      rw [convert_of_parse_error read] at mem
      exact absurd mem List.not_mem_nil

theorem shows_of_mem_visits {v : Visit T} (mem : v ∈ (c.convert reference).visits) :
    c.Shows v := by
  obtain ⟨d, read⟩ := exists_parse_of_mem_visits mem
  exact (listed_of_convert read).shows v mem

/-- A type that was met in a reference has a name. -/
theorem isName_of_mem_visits {v : Visit T} (mem : v ∈ (c.convert reference).visits) :
    Datatype.IsName v.datatype.name := by
  obtain ⟨d, read⟩ := exists_parse_of_mem_visits mem
  have below := (listed_of_convert read).initial.subset (List.mem_map_of_mem mem)
  have inside := d.postorder_perm_nodes.mem_iff.mp below
  exact ((Datatype.wellFormed_of_parse read).nodes _ inside).isName

/-- A conversion that succeeds meets the types of the reference. -/
theorem exists_visit_iff_wants (done : Succeeds (c.convert reference).result)
    {needs : Datatype → Import → Prop} {i : Import} :
    (∃ v ∈ (c.convert reference).visits, needs v.datatype i) ↔
      Datatype.Wants needs reference i := by
  obtain ⟨t, result⟩ := done
  obtain ⟨d, read, -⟩ := convert_result_eq_ok_iff.mp result
  have met := (c.listed_of_convert read).all ⟨t, result⟩
  have members : (∃ v ∈ (c.convert reference).visits, needs v.datatype i) ↔
      ∃ node ∈ d.nodes, needs node i := by
    simp only [← d.postorder_perm_nodes.mem_iff, ← met, List.mem_map,
      exists_exists_and_eq_and]
  rw [members, Datatype.Wants]
  constructor
  · exact fun wanted => ⟨d, read, wanted⟩
  · rintro ⟨d', read', wanted⟩
    cases read.symm.trans read'
    exact wanted

/-- The custom types that a conversion met are recorded, whether or not it succeeds. -/
theorem grows_recordImports (reference : String) (im : Imports) :
    im.Grows among (c.recordImports im (c.convert reference).visits) fun i =>
      ∃ v ∈ (c.convert reference).visits, c.Provides v.datatype i := by
  refine .foldl (fun v mem im => ?_) im
  rw [(shows_of_mem_visits mem).locator]
  cases located : c.locate v.datatype with
  | none => exact (Imports.Grows.refl im).of_iff fun i _ => by simp [Provides, located]
  | some loc =>
      have named : loc.typeName ≠ "" := by
        rw [Project.typeName_of_findType (locate_eq_some_iff.mp located).2]
        exact (isName_of_mem_visits mem).ne_empty
      refine (im.grows_add (c.source loc.moduleName) loc.typeName).of_iff fun i _ => ?_
      rw [Import.of_eq_symbol named]
      simp [Provides, located, TypeLocator.symbol]

/-- The imports after a conversion: the custom types that it met, and what the target needs
besides. -/
def collect (c : Converter T) (also : Imports → Visit T → Imports) (im : Imports)
    (reference : String) : Imports :=
  (c.convert reference).visits.foldl also (c.recordImports im (c.convert reference).visits)

/-- A conversion that succeeds records what the types of the reference need. -/
theorem grows_collect {also : Imports → Visit T → Imports} {needs : Datatype → Import → Prop}
    (besides : ∀ v, c.Shows v → ∀ im : Imports, im.Grows among (also im v) (needs v.datatype))
    (done : Succeeds (c.convert reference).result) (im : Imports) :
    im.Grows among (c.collect also im reference)
      (Datatype.Wants (fun node i => c.Provides node i ∨ needs node i) reference) := by
  have each (v : Visit T) (mem : v ∈ (c.convert reference).visits) :=
    besides v (shows_of_mem_visits mem)
  refine ((grows_recordImports reference im).trans (.foldl each _)).of_iff fun i _ => ?_
  simp only [← exists_visit_iff_wants done, and_or_left, exists_or]

end Converter

/-! ## Computations -/

/-- A computation that succeeds records exactly the imports of a kind that the types in some
references need. -/
def Emit.Records (among : Import → Prop) (needs : Datatype → Import → Prop) (run : Emit α)
    (references : List String) : Prop :=
  ∀ im a im', run im = .ok (a, im') →
    im.Grows among im' fun i => ∃ r ∈ references, Datatype.Wants needs r i

namespace Emit.Records

variable {among : Import → Prop} {needs : Datatype → Import → Prop} {run : Emit α}
variable {references more : List String}

theorem of_iff (records : Records among needs run references)
    (members : ∀ r, r ∈ references ↔ r ∈ more) : Records among needs run more :=
  fun im a im' result => (records im a im' result).of_iff fun i _ => by simp only [members]

/-- Fewer imports count, and for these something else is needed. -/
theorem restrict {all : Import → Prop} {others : Datatype → Import → Prop}
    (records : Records all needs run references) (fewer : ∀ i, among i → all i)
    (same : ∀ node i, among i → (needs node i ↔ others node i)) :
    Records among others run references := fun im a im' result =>
  ((records im a im' result).restrict fewer).of_iff fun i counts => by
    simp only [Datatype.Wants, same _ i counts]

/-- A computation that records nothing that counts. -/
theorem of_grows (grows : ∀ im a im', run im = .ok (a, im') → im.Grows among im' fun _ => False) :
    Records among needs run [] := fun im a im' result =>
  (grows im a im' result).of_iff fun i _ => by simp

theorem pure (a : α) : Records among needs (Pure.pure a) [] :=
  of_grows fun im b im' result => by
    cases result
    exact .refl im

/-- A whole source is no symbol. -/
theorem needModule (module : String) : Records Import.IsSymbol needs (needModule module) [] :=
  of_grows fun im b im' result => by
    cases result
    refine (im.grows_addModule module).of_iff fun i counts => iff_of_false ?_ not_false
    rintro rfl
    exact counts

theorem ofExcept (x : Except Error α) : Records among needs (ofExcept x) [] :=
  of_grows fun im a im' result => by
    obtain ⟨b, -, same⟩ := map_eq_ok_iff.mp result
    cases same
    exact .refl im

theorem fail (e : Error) : Records among needs (fail e : Emit α) [] :=
  of_grows fun _ _ _ result => nomatch result

theorem bind {next : α → Emit β} (first : Records among needs run references)
    (second : ∀ a, Records among needs (next a) more) :
    Records among needs (run >>= next) (references ++ more) := by
  intro im b im' result
  obtain ⟨⟨a, middle⟩, start, last⟩ := bind_eq_ok_iff.mp result
  refine ((first im a middle start).trans (second a middle b im' last)).of_iff fun i _ => ?_
  simp only [List.mem_append, or_and_right, exists_or]

/-- What follows a check is reached with the checked value only. -/
theorem ofExcept_bind {x : Except Error α} {next : α → Emit β}
    (second : ∀ a, x = .ok a → Records among needs (next a) references) :
    Records among needs (Emit.ofExcept x >>= next) references := by
  intro im b im' result
  obtain ⟨⟨a, middle⟩, start, last⟩ := bind_eq_ok_iff.mp result
  obtain ⟨value, checked, same⟩ := map_eq_ok_iff.mp start
  obtain ⟨rfl, rfl⟩ := Prod.mk.inj same
  exact second value checked im b im' last

theorem bind_pure (records : Records among needs run references) (f : α → β) :
    Records among needs (run >>= fun a => Pure.pure (f a)) references :=
  (records.bind fun a => pure (f a)).of_iff fun r => by rw [List.append_nil]

theorem within (records : Records among needs run references) (label : String) :
    Records among needs (run.within label) references :=
  fun im a im' result => records im a im' (labelled_eq_ok_iff.mp result)

theorem mapM {each : ι → Emit β} {readBy : ι → List String} {as : List ι}
    (records : ∀ a ∈ as, Records among needs (each a) (readBy a)) :
    Records among needs (as.mapM each) (as.flatMap readBy) := by
  induction as with
  | nil => exact pure []
  | cons a as ih =>
      rw [List.mapM_cons, List.flatMap_cons]
      refine (records a List.mem_cons_self).bind fun b => ?_
      exact (ih fun c mem => records c (List.mem_cons_of_mem a mem)).bind_pure (b :: ·)

theorem mapM_nil {each : ι → Emit β} {as : List ι}
    (records : ∀ a, Records among needs (each a) []) : Records among needs (as.mapM each) [] :=
  (mapM fun a _ => records a).of_iff fun r => by simp

theorem ite {decision : Prop} [Decidable decision] {other : Emit α}
    (yes : Records among needs run references) (no : Records among needs other more) :
    Records among needs (if decision then run else other)
      (if decision then references else more) := by
  split
  · exact yes
  · exact no

/-- A conversion records the custom types that it met, and what the target needs besides for
every type that it met. -/
theorem convert {c : Converter String} {also : Imports → Visit String → Imports}
    (besides : ∀ v, c.Shows v → ∀ im : Imports, im.Grows among (also im v) (needs v.datatype))
    (reference : String) :
    Records among (fun node i => c.Provides node i ∨ needs node i)
      (convert c also reference) [reference] := by
  intro im t im' result
  obtain ⟨rendered, converted, same⟩ := map_eq_ok_iff.mp result
  cases same
  refine (c.grows_collect besides ⟨_, converted⟩ im).of_iff fun i _ => ?_
  simp only [List.mem_singleton, exists_eq_left]

end Emit.Records

end ApiCompiler
