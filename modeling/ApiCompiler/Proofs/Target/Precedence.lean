import ApiCompiler.Proofs.Target.Options
import Mathlib.Logic.Relation

/-!
# Which pair counts

Options are given as pairs of a key and a value. Of the pairs for one key the last one counts, and
for a target a pair in its scope counts before all pairs without a scope. Nothing else matters:
neither the order of pairs for different keys nor what is given to other targets.
-/

namespace ApiCompiler.Options

open Fallible Text

/-! ## What a pair gives -/

/-- A pair gives a value to a key: the key stands in front of the first equality sign, where white
space around it does not count, and the value is all that follows. -/
def Gives (pair key value : String) : Prop :=
  ∃ front, pair = front ++ "=" ++ value ∧ '=' ∉ front.toList ∧ isBlankText front = false ∧
    trim front = key

variable {pair key value k v target : String} {pairs others before after : List String}
variable {options : Options}

theorem gives_iff_cut : Gives pair key value ↔
    ∃ front, cut '=' pair = some (front, value) ∧ isBlankText front = false ∧ trim front = key := by
  refine exists_congr fun front => ?_
  rw [cut_eq_some_iff, and_assoc, ← String.toList_inj]
  simp

theorem Gives.unique (first : Gives pair key value) (second : Gives pair k v) :
    key = k ∧ value = v := by
  obtain ⟨front, cut, -, rfl⟩ := gives_iff_cut.mp first
  obtain ⟨front', cut', -, rfl⟩ := gives_iff_cut.mp second
  cases cut.symm.trans cut'
  exact ⟨rfl, rfl⟩

/-! ## What a list of pairs gives -/

/-- No pair of a list gives a value to a key. -/
def Silent (pairs : List String) (key : String) : Prop :=
  ∀ pair ∈ pairs, ∀ value, ¬Gives pair key value

/-- The last pair for a key gives it this value. -/
def LastGives (pairs : List String) (key value : String) : Prop :=
  ∃ before pair after, pairs = before ++ pair :: after ∧ Gives pair key value ∧ Silent after key

theorem silent_append_iff : Silent (before ++ after) key ↔ Silent before key ∧ Silent after key :=
  List.forall_mem_append

theorem silent_cons_iff :
    Silent (pair :: pairs) key ↔ (∀ value, ¬Gives pair key value) ∧ Silent pairs key :=
  List.forall_mem_cons

theorem not_lastGives_nil : ¬LastGives [] key value := by
  rintro ⟨before, pair, after, split, -⟩
  simp at split

theorem lastGives_cons_iff : LastGives (pair :: pairs) key value ↔
    LastGives pairs key value ∨ Gives pair key value ∧ Silent pairs key := by
  constructor
  · rintro ⟨before, last, after, split, gives, silent⟩
    cases before with
    | nil =>
        obtain ⟨rfl, rfl⟩ := List.cons.inj split
        exact .inr ⟨gives, silent⟩
    | cons first before =>
        obtain ⟨rfl, rfl⟩ := List.cons.inj split
        exact .inl ⟨before, last, after, rfl, gives, silent⟩
  · rintro (⟨before, last, after, rfl, gives, silent⟩ | ⟨gives, silent⟩)
    · exact ⟨pair :: before, last, after, rfl, gives, silent⟩
    · exact ⟨[], pair, pairs, rfl, gives, silent⟩

theorem lastGives_append_iff : LastGives (before ++ after) key value ↔
    LastGives after key value ∨ LastGives before key value ∧ Silent after key := by
  induction before with
  | nil => simp [not_lastGives_nil]
  | cons pair before ih =>
      rw [List.cons_append, lastGives_cons_iff, ih, lastGives_cons_iff, silent_append_iff]
      tauto

/-- A pair for another key makes no difference. -/
theorem lastGives_middle_iff (other : ∀ value, ¬Gives pair key value) :
    LastGives (before ++ pair :: after) key value ↔ LastGives (before ++ after) key value := by
  have never : ¬Gives pair key value := other value
  rw [lastGives_append_iff, lastGives_append_iff, lastGives_cons_iff, silent_cons_iff]
  tauto

theorem silent_iff : Silent pairs key ↔ ∀ value, ¬LastGives pairs key value := by
  induction pairs with
  | nil => exact iff_of_true (List.forall_mem_nil _) fun _ => not_lastGives_nil
  | cons pair pairs ih =>
      simp only [silent_cons_iff, lastGives_cons_iff, not_or, forall_and, ← ih]
      tauto

/-! ## Reading pairs -/

/-- Stores what one pair gives. -/
def parseStep (options : Options) (pair : String) : Except Error Options :=
  match cut '=' pair with
  | some (key, value) =>
    if isBlankText key then .error (.config (.malformedOption pair))
    else .ok (options.insert (trim key) value)
  | none => .error (.config (.malformedOption pair))

theorem parse_eq (pairs : List String) : parse pairs = pairs.foldlM parseStep .empty := rfl

theorem parseStep_eq_ok_iff {next : Options} : parseStep options pair = .ok next ↔
    ∃ key value, Gives pair key value ∧ next = options.insert key value := by
  simp only [gives_iff_cut, parseStep]
  cases found : cut '=' pair with
  | none => simp
  | some parts =>
      obtain ⟨front, value⟩ := parts
      simp only [Option.some.injEq, Prod.mk.injEq]
      constructor
      · intro step
        split at step
        · exact nomatch step
        · rename_i visible
          cases step
          exact ⟨_, value, ⟨front, ⟨rfl, rfl⟩, Bool.eq_false_iff.mpr visible, rfl⟩, rfl⟩
      · rintro ⟨_, _, ⟨_, ⟨rfl, rfl⟩, visible, rfl⟩, rfl⟩
        rw [visible]
        rfl

/-- Pairs are read exactly if each of them gives something. -/
theorem succeeds_foldlM_parseStep_iff : Succeeds (pairs.foldlM parseStep options) ↔
    ∀ pair ∈ pairs, ∃ key value, Gives pair key value := by
  induction pairs generalizing options with
  | nil => simp
  | cons pair pairs ih =>
      rw [List.foldlM_cons, succeeds_bind_iff fun _ _ => ih, List.forall_mem_cons]
      refine and_congr_left fun _ => ?_
      simp only [Succeeds, parseStep_eq_ok_iff]
      constructor
      · rintro ⟨_, key, value, gives, -⟩
        exact ⟨key, value, gives⟩
      · rintro ⟨key, value, gives⟩
        exact ⟨_, key, value, gives, rfl⟩

theorem succeeds_parse_iff :
    Succeeds (parse pairs) ↔ ∀ pair ∈ pairs, ∃ key value, Gives pair key value :=
  succeeds_foldlM_parseStep_iff

/-- Under each key stands what the last pair for it gives, or what stood there before. -/
theorem get?_of_foldlM_parseStep {start : Options}
    (read : pairs.foldlM parseStep start = .ok options) : options.get? key = some value ↔
      LastGives pairs key value ∨ start.get? key = some value ∧ Silent pairs key := by
  induction pairs generalizing start with
  | nil =>
      cases read
      simp [not_lastGives_nil, Silent]
  | cons pair pairs ih =>
      rw [List.foldlM_cons] at read
      obtain ⟨next, step, rest⟩ := bind_eq_ok_iff.mp read
      obtain ⟨k, v, gives, rfl⟩ := parseStep_eq_ok_iff.mp step
      rw [ih rest, OrderedMap.get?_insert, lastGives_cons_iff, silent_cons_iff]
      by_cases same : k = key
      · subst same
        have given (w : String) : Gives pair k w ↔ v = w :=
          ⟨fun gives' => (gives.unique gives').2, fun eq => eq ▸ gives⟩
        simp [given]
      · have never (w : String) : ¬Gives pair key w := fun gives' => same (gives.unique gives').1
        simp [same, never]

theorem get?_of_parse (read : parse pairs = .ok options) :
    options.get? key = some value ↔ LastGives pairs key value := by
  rw [get?_of_foldlM_parseStep (parse_eq pairs ▸ read)]
  simp

/-! ## Other pairs, the same options -/

/-- For a target two lists of pairs come to the same: both can be read or none can, and their last
pairs agree on the keys without a scope and on the keys in its scope. -/
structure Alike (target : String) (pairs others : List String) : Prop where
  readable : Succeeds (parse pairs) ↔ Succeeds (parse others)
  plain : ∀ key value, isPlain key = true →
    (LastGives pairs key value ↔ LastGives others key value)
  own : ∀ key value,
    LastGives pairs (target ++ "." ++ key) value ↔ LastGives others (target ++ "." ++ key) value

theorem equivalence_alike (target : String) : Equivalence (Alike target) where
  refl _ := ⟨Iff.rfl, fun _ _ _ => Iff.rfl, fun _ _ => Iff.rfl⟩
  symm alike := ⟨alike.readable.symm, fun key value plain => (alike.plain key value plain).symm,
    fun key value => (alike.own key value).symm⟩
  trans first second := ⟨first.readable.trans second.readable,
    fun key value plain => (first.plain key value plain).trans (second.plain key value plain),
    fun key value => (first.own key value).trans (second.own key value)⟩

/-- Lists of pairs that come to the same for a target give it the same options. -/
theorem Alike.exists_parse (alike : Alike target pairs others)
    (read : parse pairs = .ok options) :
    ∃ options', parse others = .ok options' ∧
      options'.forTarget target = options.forTarget target := by
  obtain ⟨options', read'⟩ := alike.readable.mp ⟨options, read⟩
  refine ⟨options', read', forTarget_congr (fun key plain => ?_) fun key => ?_⟩
  · refine Option.ext fun value => ?_
    rw [get?_of_parse read', get?_of_parse read, alike.plain key value plain]
  · refine Option.ext fun value => ?_
    rw [get?_of_parse read', get?_of_parse read, alike.own key value]

/-- Two neighbours that give values to different keys change places. -/
inductive Exchange : List String → List String → Prop
  | swap (before after : List String) {pair other key value k v : String}
      (first : Gives pair key value) (second : Gives other k v) (different : key ≠ k) :
      Exchange (before ++ pair :: other :: after) (before ++ other :: pair :: after)

theorem Exchange.lastGives_iff (exchange : Exchange pairs others) (key value : String) :
    LastGives pairs key value ↔ LastGives others key value := by
  obtain ⟨before, after, first, second, different⟩ := exchange
  rename_i pair other key₁ _ key₂ _
  by_cases same : key₁ = key
  · subst same
    have silent (w : String) : ¬Gives other key₁ w := fun gives =>
      different (second.unique gives).1.symm
    have late : LastGives ((before ++ [pair]) ++ other :: after) key₁ value ↔
        LastGives ((before ++ [pair]) ++ after) key₁ value := lastGives_middle_iff silent
    rw [List.append_assoc, List.append_assoc] at late
    exact late.trans (lastGives_middle_iff silent).symm
  · have silent (w : String) : ¬Gives pair key w := fun gives => same (first.unique gives).1
    have late : LastGives ((before ++ [other]) ++ pair :: after) key value ↔
        LastGives ((before ++ [other]) ++ after) key value := lastGives_middle_iff silent
    rw [List.append_assoc, List.append_assoc] at late
    exact (lastGives_middle_iff silent).trans late.symm

theorem Exchange.alike (exchange : Exchange pairs others) : Alike target pairs others where
  readable := by
    rw [succeeds_parse_iff, succeeds_parse_iff]
    obtain ⟨before, after, -, -, -⟩ := exchange
    exact forall_congr' fun p =>
      imp_congr_left ((List.Perm.swap _ _ after).append_left before).mem_iff
  plain key value _ := exchange.lastGives_iff key value
  own key value := exchange.lastGives_iff _ value

/-- A pair gives a value to a key in the scope of another target. -/
def ScopedElsewhere (target pair : String) : Prop :=
  ∃ scope rest value, isPlain scope = true ∧ scope ≠ target ∧
    Gives pair (scope ++ "." ++ rest) value

/-- A pair for another target is added. Taking one away is the converse, and changing one is both,
one after the other. -/
inductive Addition (target : String) : List String → List String → Prop
  | add (before after : List String) {pair : String} (elsewhere : ScopedElsewhere target pair) :
      Addition target (before ++ after) (before ++ pair :: after)

theorem Addition.alike (target_plain : isPlain target = true)
    (addition : Addition target pairs others) : Alike target pairs others := by
  obtain ⟨before, after, scope, rest, value, scope_plain, other, gives⟩ := addition
  constructor
  · rw [succeeds_parse_iff, succeeds_parse_iff, List.forall_mem_append, List.forall_mem_append,
      List.forall_mem_cons]
    have readable := (⟨_, _, gives⟩ : ∃ key value, Gives _ key value)
    tauto
  · intro key v plain
    refine (lastGives_middle_iff fun w given => ?_).symm
    rw [← (gives.unique given).1] at plain
    simp [isPlain] at plain
  · intro key v
    refine (lastGives_middle_iff fun w given => other ?_).symm
    exact ((scoped_eq_iff scope_plain target_plain).mp (gives.unique given).1).1

/-! ## The options of a target -/

/-- Under a key without a scope a target gets the value of the last pair for the key in its own
scope, or else that of the last pair for the key alone, or else nothing. It does not matter in
which order the options are stored, nor in which order pairs for different keys are given, and
pairs for other targets can come and go. -/
theorem effective_exact (accepted : parse pairs = .ok options) (target : String) :
    (∀ key value, isPlain key = true →
      ((options.forTarget target).get? key = some value ↔
        LastGives pairs (target ++ "." ++ key) value ∨
          LastGives pairs key value ∧ Silent pairs (target ++ "." ++ key))) ∧
      (∀ stored : Options, stored.entries.Perm options.entries →
        stored.forTarget target = options.forTarget target) ∧
      (∀ others, Relation.EqvGen Exchange pairs others →
        ∃ options', parse others = .ok options' ∧
          options'.forTarget target = options.forTarget target) ∧
      (isPlain target = true → ∀ others, Relation.EqvGen (Addition target) pairs others →
        ∃ options', parse others = .ok options' ∧
          options'.forTarget target = options.forTarget target) := by
  have closed {R : List String → List String → Prop}
      (step : ∀ first second, R first second → Alike target first second) (others : List String)
      (run : Relation.EqvGen R pairs others) : ∃ options', parse others = .ok options' ∧
        options'.forTarget target = options.forTarget target := by
    have alike := Relation.EqvGen.mono step _ _ run
    exact ((equivalence_alike target).eqvGen_iff.mp alike).exists_parse accepted
  refine ⟨fun key value plain => ?_, fun stored same => ?_,
    closed fun _ _ exchange => exchange.alike,
    fun target_plain => closed fun _ _ addition => addition.alike target_plain⟩
  · rw [get?_forTarget, if_pos plain, Option.or_eq_some_iff, get?_of_parse accepted,
      get?_of_parse accepted, silent_iff, Option.eq_none_iff_forall_ne_some]
    simp only [ne_eq, get?_of_parse accepted]
    tauto
  · have found (key : String) : stored.get? key = options.get? key := by
      refine Option.ext fun value => ?_
      rw [OrderedMap.get?_eq_some_iff, OrderedMap.get?_eq_some_iff, same.mem_iff]
    exact forTarget_congr (fun key _ => found key) fun key => found _

theorem isPlain_of_mem_targetNames : ∀ target ∈ targetNames, isPlain target = true := by
  decide

/-- The last pair in the scope of the Go target counts, although a pair without a scope follows it,
also if that comes first, and whether or not the Python target is given something. -/
theorem effective_exact_indent :
    let pairs := ["go.indent=8", "python.indent=3", " go.indent =4=", "indent=6"]
    let options : Options :=
      ⟨[("go.indent", "4="), ("python.indent", "3"), ("indent", "6")], by decide⟩
    let stored : Options :=
      ⟨[("indent", "6"), ("go.indent", "4="), ("python.indent", "3")], by decide⟩
    let moved := ["go.indent=8", "python.indent=3", "indent=6", " go.indent =4="]
    let fewer := ["go.indent=8", " go.indent =4=", "indent=6"]
    parse pairs = .ok options ∧ LastGives pairs "go.indent" "4=" ∧
      (options.forTarget "go").get? "indent" = some "4=" ∧
      stored.forTarget "go" = options.forTarget "go" ∧
      ∀ others ∈ [moved, fewer], ∃ options', parse others = .ok options' ∧
        options'.forTarget "go" = options.forTarget "go" := by
  intro pairs options stored moved fewer
  have accepted : parse pairs = .ok options := by rfl
  obtain ⟨value, order, exchanged, other⟩ := effective_exact accepted "go"
  have last : LastGives pairs "go.indent" "4=" := by
    rw [← get?_of_parse accepted]
    rfl
  have own : Gives " go.indent =4=" "go.indent" "4=" :=
    ⟨" go.indent ", by decide, by decide, by decide, by decide⟩
  have plain : Gives "indent=6" "indent" "6" :=
    ⟨"indent", by decide, by decide, by decide, by decide⟩
  have exchange : Exchange pairs moved :=
    .swap ["go.indent=8", "python.indent=3"] [] own plain (by decide)
  have elsewhere : ScopedElsewhere "go" "python.indent=3" :=
    ⟨"python", "indent", "3", by decide, by decide, "python.indent", by decide, by decide,
      by decide, by decide⟩
  have addition : Addition "go" fewer pairs :=
    .add ["go.indent=8"] [" go.indent =4=", "indent=6"] elsewhere
  have target_plain := isPlain_of_mem_targetNames "go" (by decide)
  refine ⟨accepted, last, (value "indent" "4=" (by decide)).mpr (.inl last),
    order stored (by decide), List.forall_mem_cons.mpr ⟨exchanged moved (.rel _ _ exchange),
      List.forall_mem_singleton.mpr (other target_plain fewer (.symm _ _ (.rel _ _ addition)))⟩⟩

end ApiCompiler.Options
