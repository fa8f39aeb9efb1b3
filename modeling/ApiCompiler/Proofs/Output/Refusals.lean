import ApiCompiler.Output.Directory
import ApiCompiler.Proofs.Output.PathRule
import Mathlib.Data.List.Basic

/-!
# What a directory refuses

A fit path leads from the place of the directory down along its names. So a file lies below its
directory unless it is the directory itself, which the test of the beginning finds out for every
place but the root: the path of the root already ends in a slash, and no path begins with two.
-/

namespace ApiCompiler

open Text

namespace Path

/-! ## Joined paths -/

/-- A relative path below another one leads on from where that one leads. -/
theorem partsFrom_join (home root : String) {path : String} (relative : isRooted path = false)
    (nonempty : path ≠ "") :
    partsFrom home (join [root, path]) = walk (partsFrom home root) (split '/' path) := by
  by_cases empty : root = ""
  · have text : join [root, path] = clean path := by simp [join, empty, nonempty, joinWith]
    have here : partsFrom home root = walk [] (split '/' home) := by
      have spot : split '/' "" = [""] := by decide
      rw [empty, partsFrom, spot]
      rfl
    rw [text, partsFrom_clean, here, partsFrom, relative]
    rfl
  · have text : join [root, path] = clean (root ++ "/" ++ path) := by
      simp [join, nonempty, empty, joinWith, String.intercalate_cons_cons, String.append_assoc]
    have rootedAlike : isRooted (root ++ "/" ++ path) = isRooted root := by
      rw [Bool.eq_iff_iff, isRooted_iff, isRooted_iff]
      cases chars : root.toList with
      | nil => exact absurd (String.toList_eq_nil_iff.mp chars) empty
      | cons c cs => simp [chars]
    rw [text, partsFrom_clean, partsFrom, rootedAlike, split_slash, walk_append]
    rfl

/-- What is directly below a place begins like what is further below. -/
theorem under_prefix_under_append (names place : List String) :
    (under place).toList <+: (under (names ++ place)).toList := by
  induction names with
  | nil => exact List.prefix_rfl
  | cons name names ih => exact ih.trans (under_prefix_under_cons name (names ++ place))

/-- A place lies below another one, whose path is not the root, if names lead down to it. -/
theorem hasStart_ofParts_append {names place : List String} (down : names ≠ [])
    (notRoot : place ≠ []) :
    hasStart (Disk.ofParts place ++ "/") (Disk.ofParts (names ++ place)) = true := by
  cases names with
  | nil => exact absurd rfl down
  | cons name names =>
      have start : Disk.ofParts place ++ "/" = under place := by rw [under, if_neg notRoot]
      rw [hasStart_iff, start, List.cons_append, ofParts_cons, String.toList_append]
      exact (under_prefix_under_append names place).trans (List.prefix_append _ _)

/-- No path begins with the path of the root and another slash. -/
theorem not_hasStart_ofParts_nil {place : List String} (names : ∀ q ∈ place, IsName q) :
    hasStart (Disk.ofParts [] ++ "/") (Disk.ofParts place) = false := by
  rw [Bool.eq_false_iff, ne_eq, hasStart_iff]
  intro begins
  rw [Disk.ofParts, Disk.ofParts, String.toList_append, String.toList_append,
    String.toList_append] at begins
  obtain ⟨rest, same⟩ := begins
  have rooted : isRooted (joinWith "/" place.reverse) = true :=
    (isRooted_iff _).mpr ⟨rest, (List.cons.inj same).2.symm⟩
  rcases List.eq_nil_or_concat place with rfl | ⟨front, q, rfl⟩
  · exact absurd rooted (by decide)
  · have kept : ∀ p ∈ (front.concat q).reverse, IsKept p := fun p mem =>
      have name := names p (List.mem_reverse.mp mem)
      ⟨name.ne_empty, name.ne_point, name.plain⟩
    rw [not_isRooted_joinWith (by simp) kept] at rooted
    exact Bool.false_ne_true rooted

/-- Nothing lies below itself. -/
theorem not_hasStart_self (s : String) : hasStart (s ++ "/") s = false := by
  rw [Bool.eq_false_iff, ne_eq, hasStart_iff, String.toList_append]
  intro begins
  have length := begins.length_le
  rw [List.length_append] at length
  exact absurd length (by simp)

theorem ofParts_eq_root_iff {place : List String} (names : ∀ q ∈ place, IsName q) :
    Disk.ofParts place = "/" ↔ place = [] := by
  constructor
  · intro same
    cases place with
    | nil => rfl
    | cons name place =>
        have name_ne := (names name List.mem_cons_self).ne_empty
        have walked := walk_ofParts names
        rw [same] at walked
        exact walked.symm.trans (by decide)
  · rintro rfl
    rfl

end Path

namespace OutputPath

/-- The parts of a fit path, other than the current directory, are names. -/
theorem isName_of_validate {path : String} (fit : validate path = .ok ()) (other : path ≠ ".") :
    ∀ part ∈ split '/' path, Path.IsName part := by
  obtain ⟨-, relative, -, level, same⟩ := validate_eq_ok_iff.mp fit
  rcases (Path.clean_eq_self_iff relative level).mp same with point | kept
  · exact absurd point other
  · intro part mem
    refine ⟨(kept part mem).1, (kept part mem).2, ?_, not_mem_of_mem_split mem⟩
    rintro rfl
    exact level mem

theorem isA_of_validate {path : String} {e : Error} (refused : validate path = .error e) :
    e.isA .invalidPath = true := by
  unfold validate at refused
  repeat' split at refused
  all_goals first | cases refused; rfl | exact nomatch refused

end OutputPath

namespace Directory

variable {d : Directory} {c : Circumstances} {disk : Disk} {path : String}

/-! ## Where files lie -/

/-- The place of a file is that of the directory with the parts of the path behind it. -/
theorem partsFrom_locate (fit : OutputPath.validate path = .ok ()) (other : path ≠ ".") :
    Path.partsFrom disk.home (d.locate path) =
      (split '/' path).reverse ++ Path.partsFrom disk.home d.root := by
  have valid := OutputPath.validate_eq_ok_iff.mp fit
  rw [locate, Path.partsFrom_join _ _ valid.2.1 valid.1,
    Path.walk_names (OutputPath.isName_of_validate fit other)]

/-- The current directory leads to the directory itself. -/
theorem partsFrom_locate_point :
    Path.partsFrom disk.home (d.locate ".") = Path.partsFrom disk.home d.root := by
  have one : split '/' "." = ["."] := by decide
  rw [locate, Path.partsFrom_join _ _ (by decide) (by decide), one]
  rfl

theorem target_eq_ofParts (rooted : Path.isRooted disk.home = true) (path : String) :
    d.target disk path = Disk.ofParts (Path.partsFrom disk.home (d.locate path)) :=
  Path.absolute_eq rooted _

theorem absolute_eq_root_iff (rooted : Path.isRooted disk.home = true) :
    disk.absolute d.root = "/" ↔ Path.partsFrom disk.home d.root = [] := by
  rw [Disk.absolute, Path.absolute_eq rooted]
  exact Path.ofParts_eq_root_iff (Path.names_partsFrom _ _)

/-- A directory holds every file with a fit path, unless it is the root or the file is the
directory itself. -/
theorem holds_iff (rooted : Path.isRooted disk.home = true)
    (fit : OutputPath.validate path = .ok ()) :
    d.holds disk path = true ↔ path ≠ "." ∧ disk.absolute d.root ≠ "/" := by
  have names := Path.names_partsFrom disk.home (d.locate path)
  rw [ne_eq, ne_eq, absolute_eq_root_iff rooted, holds, ← target, target_eq_ofParts rooted,
    Disk.absolute, Path.absolute_eq rooted]
  by_cases point : path = "."
  · rw [point, partsFrom_locate_point, Path.not_hasStart_self]
    simp
  · rw [partsFrom_locate fit point] at names ⊢
    by_cases root : Path.partsFrom disk.home d.root = []
    · rw [root] at names ⊢
      rw [Path.not_hasStart_ofParts_nil names]
      simp
    · have down : (split '/' path).reverse ≠ [] := by simp [split, splitAt_ne_nil]
      rw [Path.hasStart_ofParts_append down root]
      simp [point, root]

theorem run_of_error {file : OutputFile} {e : Error}
    (refused : OutputPath.validate file.path = .error e) : d.run c disk file = ⟨[], some e⟩ := by
  rw [run, OutputPath.permit, refused]
  rfl

/-- What becomes of a write to a fit path. -/
theorem run_of_fit {file : OutputFile} (rooted : Path.isRooted disk.home = true)
    (fit : OutputPath.validate file.path = .ok ()) : d.run c disk file =
      if c.cancelledBefore = true then ⟨[], some .cancelled⟩
      else if file.path = "." ∨ disk.absolute d.root = "/" then
        ⟨[], some (.outputPath (.escapesRoot file.path))⟩
      else d.writeAtomically c disk file := by
  have holds := holds_iff (d := d) rooted fit
  rw [run, OutputPath.permit, fit]
  cases cancelled : c.cancelledBefore with
  | true => rfl
  | false =>
      rw [if_neg Bool.false_ne_true]
      change (if (!d.holds disk file.path) = true then _ else _) = _
      by_cases refused : file.path = "." ∨ disk.absolute d.root = "/"
      · have outside : d.holds disk file.path = false := by
          rw [Bool.eq_false_iff, ne_eq, holds]
          rintro ⟨other, notRoot⟩
          exact refused.elim other notRoot
        rw [outside, if_pos refused]
        rfl
      · have inside : d.holds disk file.path = true := holds.mpr (not_or.mp refused)
        rw [inside, if_neg refused]
        rfl

/-! ## Failures of the later steps -/

/-- A failure, if there is one, that is not about an invalid path. -/
def IsOther (fault : Option Error) : Prop := ∀ e, fault = some e → e.isA .invalidPath = false

theorem isOther_none : IsOther none := nofun

theorem isOther_some {e : Error} (other : e.isA .invalidPath = false) : IsOther (some e) := by
  rintro _ ⟨⟩
  exact other

theorem IsOther.within {fault : Option Error} (other : IsOther fault) (label : String) :
    IsOther (fault.map (.within label)) := by
  intro e failed
  obtain ⟨cause, reported, rfl⟩ := Option.map_eq_some_iff.mp failed
  exact other cause reported

theorem IsOther.or {fault later : Option Error} (first : IsOther fault) (second : IsOther later) :
    IsOther (fault.or later) := by
  intro e failed
  rcases Option.or_eq_some_iff.mp failed with early | ⟨-, late⟩
  · exact first e early
  · exact second e late

theorem isOther_failure (o : DiskObstacle) (operation path : String) :
    IsOther (some (o.failure operation path)) := by
  apply isOther_some
  cases o <;> rfl

theorem isOther_makeMissing (disk : Disk) (paths : List String) :
    IsOther (disk.makeMissing paths).fault := by
  induction paths generalizing disk with
  | nil => exact isOther_none
  | cons path rest ih =>
      rw [Disk.makeMissing]
      dsimp only
      split
      · exact ih disk
      · exact isOther_failure _ _ _
      · exact isOther_failure _ _ _
      · exact ih _

section Steps

variable (foreign : ∀ step, IsOther (c.refusal step))

include foreign

theorem isOther_refused (d : Directory) (steps : List WriteStep) : IsOther (d.refused c steps) := by
  intro e failed
  obtain ⟨step, -, reported⟩ := List.exists_of_findSome?_eq_some failed
  exact (foreign step).within _ e reported

theorem isOther_makeParents (d : Directory) (disk : Disk) (path : String) :
    IsOther (d.makeParents c disk path).fault := by
  unfold makeParents
  dsimp only
  split
  · rename_i refused
    rw [← refused]
    exact isOther_refused foreign d _
  · dsimp only
    exact (isOther_makeMissing disk _).within _

theorem isOther_uncreated (d : Directory) (disk : Disk) (path : String) :
    IsOther (d.uncreated c disk path) := by
  unfold uncreated
  split
  · rename_i refused
    rw [← refused]
    exact isOther_refused foreign d _
  · exact isOther_some rfl
  · exact isOther_none

theorem isOther_fill (d : Directory) (temporary content : String) :
    IsOther (d.fill c temporary content).fault := by
  unfold fill
  dsimp only
  split
  · rename_i refused
    rw [← refused]
    exact isOther_refused foreign d _
  · rename_i refused
    rw [← refused]
    exact isOther_refused foreign d _
  · exact isOther_none

theorem isOther_unplaced (d : Directory) (disk : Disk) (path : String) :
    IsOther (d.unplaced c disk path) := by
  unfold unplaced
  dsimp only
  split
  · rename_i refused
    rw [← refused]
    exact isOther_refused foreign d _
  · intro e failed
    obtain ⟨o, -, rfl⟩ := Option.map_eq_some_iff.mp failed
    rfl
  · split
    · exact isOther_some rfl
    · split
      · exact isOther_some rfl
      · exact isOther_none

/-- Behind the checks of the path nothing fails as an invalid path. -/
theorem isOther_writeAtomically (d : Directory) (disk : Disk) (file : OutputFile) :
    IsOther (d.writeAtomically c disk file).fault := by
  have cancellation : IsOther (if c.cancelledAfter then some Error.cancelled else none) := by
    split
    · exact isOther_some rfl
    · exact isOther_none
  unfold writeAtomically
  dsimp only
  split
  · rename_i failed
    rw [← failed]
    apply IsOther.or
    · exact isOther_makeParents foreign d disk file.path
    · exact isOther_uncreated foreign d _ file.path
  · split
    · rename_i failed
      rw [← failed]
      apply IsOther.or
      · apply IsOther.or
        · exact isOther_fill foreign d _ file.content
        · exact cancellation
      · exact isOther_unplaced foreign d _ file.path
    · exact isOther_none

/-- With a fit path a write that fails as an invalid path got no further than the test of its
place. -/
theorem refused_of_fit {file : OutputFile} (rooted : Path.isRooted disk.home = true)
    (fit : OutputPath.validate file.path = .ok ()) {e : Error}
    (failed : (d.run c disk file).fault = some e) (invalid : e.isA .invalidPath = true) :
    (c.cancelledBefore = false ∧ (file.path = "." ∨ disk.absolute d.root = "/")) ∧
      (d.run c disk file).changes = [] := by
  rw [run_of_fit rooted fit] at failed ⊢
  split at failed
  · cases failed
    exact nomatch invalid
  · rename_i running
    split at failed
    · rename_i refused
      rw [if_neg running, if_pos refused]
      exact ⟨⟨Bool.eq_false_iff.mpr running, refused⟩, rfl⟩
    · rw [isOther_writeAtomically foreign d disk file e failed] at invalid
      exact nomatch invalid

end Steps

/-! ## The main result -/

/-- A directory refuses a file as an invalid path exactly if the path is not fit, or, unless the
write is cancelled before, if the path is the current directory or the directory is the root of all
paths. Whatever it refuses in this way, it changes nothing. Every other file lies at the place of
the directory with the parts of the path behind it, and unless the write is cancelled before and
unless the directory is the root, its write goes on to the steps of the disk. -/
theorem refusals_exact (d : Directory) (c : Circumstances) (disk : Disk) (file : OutputFile)
    (rooted : Path.isRooted disk.home = true) (foreign : ∀ step, IsOther (c.refusal step)) :
    ((∃ e, (d.writeUnder c disk file).2 = some e ∧ e.isA .invalidPath = true) ↔
      (∃ e, OutputPath.validate file.path = .error e) ∨
        c.cancelledBefore = false ∧ (file.path = "." ∨ disk.absolute d.root = "/")) ∧
    (∀ e, (d.writeUnder c disk file).2 = some e → e.isA .invalidPath = true →
      (d.run c disk file).changes = []) ∧
    (OutputPath.validate file.path = .ok () → file.path ≠ "." →
      (∃ place, (∀ part ∈ place, Path.IsName part) ∧
        disk.absolute d.root = "/" ++ joinWith "/" place ∧
        d.target disk file.path = "/" ++ joinWith "/" (place ++ split '/' file.path)) ∧
      (c.cancelledBefore = false → disk.absolute d.root ≠ "/" →
        d.run c disk file = d.writeAtomically c disk file)) := by
  rw [writeUnder]
  dsimp only
  cases fit : OutputPath.validate file.path with
  | error e =>
      have invalid := OutputPath.isA_of_validate fit
      rw [run_of_error fit]
      exact ⟨iff_of_true ⟨e, rfl, invalid⟩ (.inl ⟨e, rfl⟩), fun _ _ _ => rfl, nofun⟩
  | ok _ =>
      refine ⟨?refused, ?unchanged, ?accepted⟩
      case refused =>
        constructor
        · rintro ⟨e, failed, invalid⟩
          exact .inr (refused_of_fit foreign rooted fit failed invalid).1
        · rintro (⟨_, refused⟩ | ⟨running, refused⟩)
          · exact nomatch refused
          · rw [run_of_fit rooted fit, if_neg (Bool.eq_false_iff.mp running), if_pos refused]
            exact ⟨_, rfl, rfl⟩
      case unchanged =>
        intro e failed invalid
        exact (refused_of_fit foreign rooted fit failed invalid).2
      case accepted =>
        intro _ other
        refine ⟨⟨(Path.partsFrom disk.home d.root).reverse, ?_, ?_, ?_⟩, ?_⟩
        · intro part mem
          exact Path.names_partsFrom _ _ part (List.mem_reverse.mp mem)
        · rw [Disk.absolute, Path.absolute_eq rooted, Disk.ofParts]
        · rw [target_eq_ofParts rooted, partsFrom_locate fit other, Disk.ofParts,
            List.reverse_append, List.reverse_reverse]
        · intro running notRoot
          rw [run_of_fit rooted fit, if_neg (Bool.eq_false_iff.mp running),
            if_neg (not_or.mpr ⟨other, notRoot⟩)]

/-- A file below a directory that is reached by a step up. -/
theorem refusals_exact_sibling :
    let disk := Disk.new "/work"
    let c := Circumstances.plain false disk
    Path.isRooted disk.home = true ∧ (∀ step, IsOther (c.refusal step)) ∧
      OutputPath.validate "api/users.py" = .ok () ∧ disk.absolute "../out" = "/out" ∧
      (new "../out").target disk "api/users.py" = "/out/api/users.py" ∧
      (new "../out").run c disk ⟨"api/users.py", ""⟩ =
        (new "../out").writeAtomically c disk ⟨"api/users.py", ""⟩ := by
  have rooted : Path.isRooted (Disk.new "/work").home = true := by decide +kernel
  have foreign : ∀ step, IsOther ((Circumstances.plain false (Disk.new "/work")).refusal step) :=
    fun _ => isOther_none
  have fit : OutputPath.validate "api/users.py" = .ok () := by decide +kernel
  have root : (Disk.new "/work").absolute "../out" = "/out" := by decide +kernel
  have target : (new "../out").target (Disk.new "/work") "api/users.py" = "/out/api/users.py" := by
    decide +kernel
  obtain ⟨-, -, accepted⟩ := refusals_exact (new "../out") _ _ ⟨"api/users.py", ""⟩ rooted foreign
  obtain ⟨-, goesOn⟩ := accepted fit (by decide)
  refine ⟨rooted, foreign, fit, root, target, goesOn rfl ?_⟩
  rw [new, root]
  decide

/-- Below the root of all paths every file is refused. -/
theorem root_refuses_files :
    OutputPath.validate "api.py" = .ok () ∧
      ((new "/").write (Disk.new "/work") false ⟨"api.py", ""⟩).2 =
        some (.outputPath (.escapesRoot "api.py")) ∧
      (Error.outputPath (.escapesRoot "api.py")).isA .invalidPath = true := by
  decide +kernel

end Directory

end ApiCompiler
