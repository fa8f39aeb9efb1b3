import ApiCompiler.Proofs.Output.Directory

/-!
# Atomic writes

The stages that a write passes through, seen from the outside, and what they have in common: a
reader finds every file as it was, or the complete new one, or a temporary file that was not there
before.
-/

namespace ApiCompiler.Directory

open Text Disk

/-! ### Drafts -/

theorem get?_applyAll_drafts {temporary : String} (notRoot : temporary ≠ "/")
    {drafts : List DiskChange} (filled : AreDrafts temporary drafts) (s : Disk) {path : String}
    (other : path ≠ temporary) : (s.applyAll drafts).get? path = s.get? path := by
  induction drafts generalizing s with
  | nil => rfl
  | cons change rest ih =>
    rcases List.forall_mem_cons.mp filled with ⟨⟨mode, text, rfl⟩, others⟩
    rw [applyAll_cons, ih others, DiskChange.apply, get?_put notRoot, if_neg (Ne.symm other)]

theorem get?_applyAll_of_getLast? {temporary text : String} (notRoot : temporary ≠ "/")
    {drafts : List DiskChange} {mode : Nat}
    (complete : drafts.getLast? = some (.putFile temporary mode text)) (s : Disk) :
    (s.applyAll drafts).get? temporary = some (.file mode text) := by
  rcases List.getLast?_eq_some_iff.mp complete with ⟨front, rfl⟩
  rw [applyAll_append, applyAll_cons, applyAll_nil, DiskChange.apply, get?_put notRoot, if_pos rfl]

theorem get?_remove_draft {temporary : String} (notRoot : temporary ≠ "/") (s : Disk)
    (path : String) : ((DiskChange.remove temporary).apply s).get? path =
      if temporary = path then none else s.get? path :=
  get?_remove notRoot s path

/-! ### Putting a file in place -/

variable {d : Directory} {temporary target : String} {s : Disk} {entry : DiskEntry}

theorem get?_move (temporaryNotRoot : temporary ≠ "/") (targetNotRoot : target ≠ "/")
    (filled : s.get? temporary = some entry) (path : String) :
    ((DiskChange.move temporary target).apply s).get? path =
      if target = path then some entry else if temporary = path then none else s.get? path := by
  rw [DiskChange.apply, filled, get?_put targetNotRoot, get?_remove temporaryNotRoot]

theorem get?_link (targetNotRoot : target ≠ "/") (filled : s.get? temporary = some entry)
    (path : String) :
    ((DiskChange.link temporary target).apply s).get? path =
      if target = path then some entry else s.get? path := by
  rw [DiskChange.apply, filled, get?_put targetNotRoot]

/-- Without leave to replace it, the target is free, and so not the temporary file. -/
theorem ne_of_mayReplace (overwrite : d.overwrite = false) (free : d.MayReplace (s.get? target))
    (filled : s.get? temporary = some entry) : temporary ≠ target := by
  rintro rfl
  rcases free with absent | ⟨allowed, -⟩
  · rw [filled] at absent
    cases absent
  · rw [overwrite] at allowed
    cases allowed

theorem place_of_overwrite (overwrite : d.overwrite = true) :
    d.place temporary target = [.move temporary target] := by
  rw [place, if_pos overwrite]

theorem place_of_not_overwrite (overwrite : d.overwrite = false) :
    d.place temporary target = [.link temporary target, .remove temporary] := by
  rw [place, if_neg (by simp [overwrite])]

/-- Both ways to put a file in place leave the file at the target and nothing at the temporary
path. -/
theorem get?_applyAll_place (temporaryNotRoot : temporary ≠ "/") (targetNotRoot : target ≠ "/")
    (filled : s.get? temporary = some entry) (free : d.MayReplace (s.get? target))
    (path : String) :
    (s.applyAll (d.place temporary target)).get? path =
      if target = path then some entry else if temporary = path then none else s.get? path := by
  cases overwrite : d.overwrite with
  | true =>
    rw [place_of_overwrite overwrite]
    exact get?_move temporaryNotRoot targetNotRoot filled path
  | false =>
    have apart := ne_of_mayReplace overwrite free filled
    rw [place_of_not_overwrite overwrite, applyAll_cons, applyAll_cons, applyAll_nil,
      get?_remove_draft temporaryNotRoot, get?_link targetNotRoot filled]
    split
    · rename_i gone
      rw [if_neg (gone ▸ apart.symm)]
    · rfl

/-! ### Stages -/

variable (d) (c : Circumstances) (disk : Disk) (file : OutputFile)

/-- What stands at the target of a write that succeeded. -/
def written : DiskEntry := .file d.fileMode file.content

/-- What an observer finds behind some of the changes of a write: nothing has happened but that
directories were made, or there is a temporary file besides, or the complete file is in place. -/
inductive Stage (after : Disk) : Prop
  | begun (kept : ∀ path, Kept disk after path)
  | drafted (isNew : disk.get? (d.temporary c disk file.path) = none)
      (kept : ∀ path, path ≠ d.temporary c disk file.path → Kept disk after path)
  | placed (isNew : disk.get? (d.temporary c disk file.path) = none)
      (free : d.MayReplace (disk.get? (d.target disk file.path)))
      (complete : after.get? (d.target disk file.path) = some (d.written file))
      (kept : ∀ path, path ≠ d.temporary c disk file.path → path ≠ d.target disk file.path →
        Kept disk after path)

theorem prefix_append_cases {α : Type} {first second before : List α}
    (begins : before <+: first ++ second) :
    before <+: first ∨ ∃ more, before = first ++ more ∧ more <+: second := by
  rcases List.prefix_or_prefix_of_prefix begins (List.prefix_append first second) with
    short | ⟨more, rfl⟩
  · exact .inl short
  · exact .inr ⟨more, rfl, (List.prefix_append_right_inj _).mp begins⟩

section Courses

variable {d c disk file} {made drafts : List DiskChange}
  (rooted : Path.isRooted disk.home = true) (below : d.holds disk file.path = true)
  (directories : MakesDirectories made)
  (isNew : (disk.applyAll made).get? (d.temporary c disk file.path) = none)
  (filled : AreDrafts (d.temporary c disk file.path) drafts)

include rooted below directories isNew filled

/-- Before anything is put in place, only the temporary file is new. -/
theorem stage_of_prefix_filled {before : List DiskChange} (begins : before <+: made ++ drafts) :
    Stage d c disk file (disk.applyAll before) := by
  rcases prefix_append_cases begins with inMade | ⟨more, rfl, inDrafts⟩
  · exact .begun ((directories.of_prefix inMade).kept disk)
  · have notRoot := ne_root_of_below rooted (temporary_below d c rooted below)
    refine .drafted ((directories.kept disk _).absent isNew) ?_
    intro path other
    rw [applyAll_append, Kept, get?_applyAll_drafts notRoot
      (fun change mem => filled change (inDrafts.subset mem)) _ other]
    exact directories.kept disk path

/-- A write that removes its temporary file has only made directories. -/
theorem kept_of_removed (path : String) :
    Kept disk (disk.applyAll (made ++ drafts ++ [.remove (d.temporary c disk file.path)]))
      path := by
  have notRoot := ne_root_of_below rooted (temporary_below d c rooted below)
  rw [applyAll_append, applyAll_append, applyAll_cons, applyAll_nil, Kept,
    get?_remove_draft notRoot]
  rcases eq_or_ne (d.temporary c disk file.path) path with rfl | other
  · rw [if_pos rfl]
    exact .inl ((directories.kept disk _).absent isNew).symm
  · rw [if_neg other, get?_applyAll_drafts notRoot filled _ other.symm]
    exact directories.kept disk path

/-- What may be replaced behind the drafts might be replaced before. -/
theorem mayReplace_before
    (free : d.MayReplace ((disk.applyAll (made ++ drafts)).get? (d.target disk file.path))) :
    d.MayReplace (disk.get? (d.target disk file.path)) := by
  have wasNew := (directories.kept disk _).absent isNew
  rcases eq_or_ne (d.target disk file.path) (d.temporary c disk file.path) with same | other
  · rw [same]
    exact .inl wasNew
  · have notRoot := ne_root_of_below rooted (temporary_below d c rooted below)
    rw [applyAll_append, get?_applyAll_drafts notRoot filled _ other] at free
    rcases directories.kept disk (d.target disk file.path) with kept | ⟨absent, -⟩
    · rw [kept] at free
      exact free
    · exact .inl absent

section Placed

variable (complete : drafts.getLast? =
    some (.putFile (d.temporary c disk file.path) d.fileMode file.content))
  (free : d.MayReplace ((disk.applyAll (made ++ drafts)).get? (d.target disk file.path)))

include complete

omit directories isNew filled in
/-- The temporary file is complete behind the drafts. -/
theorem get?_temporary : (disk.applyAll (made ++ drafts)).get? (d.temporary c disk file.path) =
    some (d.written file) := by
  rw [applyAll_append]
  exact get?_applyAll_of_getLast?
    (ne_root_of_below rooted (temporary_below d c rooted below)) complete _

include free

omit directories isNew in
/-- What stands where when the file is in place. -/
theorem get?_placed (path : String) :
    (disk.applyAll (made ++ drafts ++ d.place (d.temporary c disk file.path)
      (d.target disk file.path))).get? path =
        if d.target disk file.path = path then some (d.written file)
        else if d.temporary c disk file.path = path then none
        else (disk.applyAll made).get? path := by
  have notRoot := ne_root_of_below rooted (temporary_below d c rooted below)
  have targetNotRoot : d.target disk file.path ≠ "/" := ne_root_of_below rooted below
  rw [applyAll_append, get?_applyAll_place notRoot targetNotRoot
    (get?_temporary rooted below complete) free]
  split
  · rfl
  split
  · rfl
  · rename_i other
    rw [applyAll_append, get?_applyAll_drafts notRoot filled _ (Ne.symm other)]

/-- Behind some of the changes that put the file in place, it is there or not yet. -/
theorem stage_of_prefix_place {more : List DiskChange}
    (begins : more <+: d.place (d.temporary c disk file.path) (d.target disk file.path)) :
    Stage d c disk file (disk.applyAll (made ++ drafts ++ more)) := by
  have wasNew := (directories.kept disk _).absent isNew
  have wasFree := mayReplace_before rooted below directories isNew filled free
  have notYet : Stage d c disk file (disk.applyAll (made ++ drafts ++ [])) := by
    rw [List.append_nil]
    exact stage_of_prefix_filled rooted below directories isNew filled List.prefix_rfl
  have whole : Stage d c disk file (disk.applyAll (made ++ drafts ++
      d.place (d.temporary c disk file.path) (d.target disk file.path))) := by
    have entries := get?_placed rooted below filled complete free
    refine .placed wasNew wasFree ((entries _).trans (if_pos rfl)) ?_
    intro path notTemporary notTarget
    rw [Kept, entries, if_neg (Ne.symm notTarget), if_neg (Ne.symm notTemporary)]
    exact directories.kept disk path
  cases overwrite : d.overwrite with
  | true =>
    rw [place_of_overwrite overwrite] at begins whole
    rcases List.prefix_cons_iff.mp begins with rfl | ⟨rest, rfl, nothing⟩
    · exact notYet
    · rw [List.prefix_nil.mp nothing]
      exact whole
  | false =>
    rw [place_of_not_overwrite overwrite] at begins whole
    rcases List.prefix_cons_iff.mp begins with rfl | ⟨rest, rfl, begins'⟩
    · exact notYet
    rcases List.prefix_cons_iff.mp begins' with rfl | ⟨rest', rfl, nothing⟩
    · -- linked, and the temporary name is still there
      have notRoot := ne_root_of_below rooted (temporary_below d c rooted below)
      have targetNotRoot : d.target disk file.path ≠ "/" := ne_root_of_below rooted below
      have isFilled : (disk.applyAll (made ++ drafts)).get? (d.temporary c disk file.path) =
          some (d.written file) := get?_temporary rooted below complete
      have entries := get?_link targetNotRoot isFilled
      rw [applyAll_append, applyAll_cons, applyAll_nil]
      refine .placed wasNew wasFree ((entries _).trans (if_pos rfl)) ?_
      intro path notTemporary notTarget
      rw [Kept, entries, if_neg (Ne.symm notTarget), applyAll_append,
        get?_applyAll_drafts notRoot filled _ notTemporary]
      exact directories.kept disk path
    · rw [List.prefix_nil.mp nothing]
      exact whole

end Placed

end Courses

variable {d c disk file} {run : DiskRun}

/-- Wherever the changes of a write are interrupted, they have reached one of the stages. -/
theorem Course.stage (course : Course d c disk file run) (rooted : Path.isRooted disk.home = true)
    {before : List DiskChange} (begins : before <+: run.changes) :
    Stage d c disk file (disk.applyAll before) := by
  cases course with
  | unbegun e directories => exact .begun ((directories.of_prefix begins).kept disk)
  | abandoned e below directories isNew filled =>
    rcases prefix_append_cases begins with inFilled | ⟨more, rfl, ending⟩
    · exact stage_of_prefix_filled rooted below directories isNew filled inFilled
    rcases List.prefix_cons_iff.mp ending with rfl | ⟨rest, rfl, nothing⟩
    · rw [List.append_nil]
      exact stage_of_prefix_filled rooted below directories isNew filled List.prefix_rfl
    · rw [List.prefix_nil.mp nothing]
      exact .begun (kept_of_removed rooted below directories isNew filled)
  | placed below directories isNew filled complete free =>
    rcases prefix_append_cases begins with inFilled | ⟨more, rfl, ending⟩
    · exact stage_of_prefix_filled rooted below directories isNew filled inFilled
    · exact stage_of_prefix_place rooted below directories isNew filled complete free ending

/-- A write that fails has only made directories. -/
theorem Course.kept_of_fault (course : Course d c disk file run)
    (rooted : Path.isRooted disk.home = true) {e : Error} (failed : run.fault = some e)
    (path : String) : Kept disk (disk.applyAll run.changes) path := by
  cases course with
  | unbegun e directories => exact directories.kept disk path
  | abandoned e below directories isNew filled =>
    exact kept_of_removed rooted below directories isNew filled path
  | placed below directories isNew filled complete free => cases failed

/-- A write that succeeds leaves the file and no temporary one. -/
theorem Course.placed_of_no_fault (course : Course d c disk file run)
    (rooted : Path.isRooted disk.home = true) (succeeded : run.fault = none) :
    disk.get? (d.temporary c disk file.path) = none ∧
      d.MayReplace (disk.get? (d.target disk file.path)) ∧
      (disk.applyAll run.changes).get? (d.target disk file.path) = some (d.written file) ∧
      (d.temporary c disk file.path ≠ d.target disk file.path →
        (disk.applyAll run.changes).get? (d.temporary c disk file.path) = none) ∧
      ∀ path, path ≠ d.temporary c disk file.path → path ≠ d.target disk file.path →
        Kept disk (disk.applyAll run.changes) path := by
  cases course with
  | unbegun e directories => cases succeeded
  | abandoned e below directories isNew filled => cases succeeded
  | placed below directories isNew filled complete free =>
    have entries := get?_placed rooted below filled complete free
    refine ⟨(directories.kept disk _).absent isNew,
      mayReplace_before rooted below directories isNew filled free,
      (entries _).trans (if_pos rfl), ?_, ?_⟩
    · intro other
      rw [entries, if_neg (Ne.symm other), if_pos rfl]
    · intro path notTemporary notTarget
      rw [Kept, entries, if_neg (Ne.symm notTarget), if_neg (Ne.symm notTemporary)]
      exact directories.kept disk path

/-- Files are changed only below the directory. -/
theorem Course.below (course : Course d c disk file run)
    (rooted : Path.isRooted disk.home = true) :
    ∀ change ∈ run.changes, ∀ path ∈ change.files,
      hasStart (disk.absolute d.root ++ "/") path = true := by
  have ofMade : ∀ {made : List DiskChange}, MakesDirectories made → ∀ change ∈ made,
      ∀ path ∈ change.files, hasStart (disk.absolute d.root ++ "/") path = true := by
    intro made directories change mem path isFile
    rcases directories change mem with ⟨place, rfl⟩
    cases isFile
  have ofDrafts : ∀ {drafts : List DiskChange}, d.holds disk file.path = true →
      AreDrafts (d.temporary c disk file.path) drafts → ∀ change ∈ drafts,
      ∀ path ∈ change.files, hasStart (disk.absolute d.root ++ "/") path = true := by
    intro drafts below filled change mem path isFile
    rcases filled change mem with ⟨mode, text, rfl⟩
    rw [List.mem_singleton.mp isFile]
    exact temporary_below d c rooted below
  cases course with
  | unbegun e directories => exact ofMade directories
  | abandoned e below directories isNew filled =>
    intro change mem
    rcases List.mem_append.mp mem with mem | mem
    · rcases List.mem_append.mp mem with mem | mem
      · exact ofMade directories change mem
      · exact ofDrafts below filled change mem
    · rw [List.mem_singleton.mp mem]
      intro path isFile
      rw [List.mem_singleton.mp isFile]
      exact temporary_below d c rooted below
  | placed below directories isNew filled complete free =>
    intro change mem
    rcases List.mem_append.mp mem with mem | mem
    · rcases List.mem_append.mp mem with mem | mem
      · exact ofMade directories change mem
      · exact ofDrafts below filled change mem
    · intro path isFile
      have either : path = d.temporary c disk file.path ∨ path = d.target disk file.path := by
        cases overwrite : d.overwrite with
        | true =>
          rw [place_of_overwrite overwrite] at mem
          rw [List.mem_singleton.mp mem] at isFile
          simpa [DiskChange.files] using isFile
        | false =>
          rw [place_of_not_overwrite overwrite] at mem
          rcases List.mem_pair.mp mem with rfl | rfl
          · simpa [DiskChange.files] using isFile
          · exact .inl (List.mem_singleton.mp isFile)
      rcases either with same | same
      · rw [same]
        exact temporary_below d c rooted below
      · rw [same]
        exact below

/-! ### The main result -/

theorem file?_of_get? {s : Disk} {path text : String} {mode : Nat}
    (found : s.get? path = some (.file mode text)) : s.file? path = some (mode, text) := by
  rw [Disk.file?, found]

/-- A stage keeps the directories. -/
theorem Stage.directory {after : Disk} (stage : Stage d c disk file after) {path : String}
    (was : disk.get? path = some .directory) : after.get? path = some .directory := by
  have notNew : disk.get? (d.temporary c disk file.path) = none →
      path ≠ d.temporary c disk file.path := by
    intro isNew same
    rw [same, isNew] at was
    cases was
  cases stage with
  | begun kept => exact (kept path).directory was
  | drafted isNew kept => exact (kept path (notNew isNew)).directory was
  | placed isNew free complete kept =>
    have notTarget : path ≠ d.target disk file.path := by
      intro same
      rw [same] at was
      rcases free with absent | ⟨-, notDirectory⟩
      · rw [was] at absent
        cases absent
      · exact notDirectory was
    exact (kept path (notNew isNew) notTarget).directory was

/-- A reader finds every file as it was, or the complete new one, or a new temporary file. -/
theorem Stage.file? {after : Disk} (stage : Stage d c disk file after) (path : String) :
    after.file? path = disk.file? path ∨
      path = d.target disk file.path ∧ after.file? path = some (d.fileMode, file.content) ∨
      path = d.temporary c disk file.path ∧ disk.get? path = none := by
  cases stage with
  | begun kept => exact .inl (kept path).file?
  | drafted isNew kept =>
    rcases eq_or_ne (d.temporary c disk file.path) path with rfl | other
    · exact .inr (.inr ⟨rfl, isNew⟩)
    · exact .inl (kept path other.symm).file?
  | placed isNew free complete kept =>
    rcases eq_or_ne (d.temporary c disk file.path) path with rfl | notTemporary
    · exact .inr (.inr ⟨rfl, isNew⟩)
    rcases eq_or_ne (d.target disk file.path) path with rfl | notTarget
    · exact .inr (.inl ⟨rfl, file?_of_get? complete⟩)
    · exact .inl (kept path notTemporary.symm notTarget.symm).file?

/-- Without leave to replace files, what stands at the target stays. -/
theorem Stage.get?_target {after : Disk} (stage : Stage d c disk file after)
    (overwrite : d.overwrite = false)
    (present : disk.get? (d.target disk file.path) ≠ none) :
    after.get? (d.target disk file.path) = disk.get? (d.target disk file.path) := by
  have ofKept : Kept disk after (d.target disk file.path) →
      after.get? (d.target disk file.path) = disk.get? (d.target disk file.path) := by
    rintro (same | ⟨absent, -⟩)
    · exact same
    · exact absurd absent present
  cases stage with
  | begun kept => exact ofKept (kept _)
  | drafted isNew kept =>
    refine ofKept (kept _ ?_)
    intro same
    rw [same] at present
    exact present isNew
  | placed isNew free complete kept =>
    rcases free with absent | ⟨allowed, -⟩
    · exact absurd absent present
    · rw [overwrite] at allowed
      cases allowed

variable (d c disk file) in
/-- Writing a file is atomic and stays below the directory, whatever the system refuses and
whenever it is cancelled. A write that fails leaves every file as it was and adds none; one that
succeeds changes the file at the target alone and leaves no temporary file. Without leave to
replace files, what stands at the target stays and the write fails. Wherever its changes are
interrupted, directories are still there, and a reader finds every file as it was, or the complete
new one, or a temporary file at a path where nothing was. Files are made, replaced and removed
strictly below the directory only. -/
theorem write_atomic (rooted : Path.isRooted disk.home = true) :
    (∀ e, (d.writeUnder c disk file).2 = some e →
      ∀ path, (d.writeUnder c disk file).1.file? path = disk.file? path) ∧
    ((d.writeUnder c disk file).2 = none →
      (d.writeUnder c disk file).1.file? (d.target disk file.path) =
        some (d.fileMode, file.content) ∧
      (∀ path, path ≠ d.target disk file.path →
        (d.writeUnder c disk file).1.file? path = disk.file? path) ∧
      disk.get? (d.temporary c disk file.path) = none ∧
      (d.temporary c disk file.path ≠ d.target disk file.path →
        (d.writeUnder c disk file).1.get? (d.temporary c disk file.path) = none)) ∧
    (d.overwrite = false → disk.get? (d.target disk file.path) ≠ none →
      (d.writeUnder c disk file).2 ≠ none ∧
      ∀ before later, (d.run c disk file).changes = before ++ later →
        (disk.applyAll before).get? (d.target disk file.path) =
          disk.get? (d.target disk file.path)) ∧
    (∀ before later, (d.run c disk file).changes = before ++ later → ∀ path,
      (disk.get? path = some .directory →
        (disk.applyAll before).get? path = some .directory) ∧
      ((disk.applyAll before).file? path = disk.file? path ∨
        path = d.target disk file.path ∧
          (disk.applyAll before).file? path = some (d.fileMode, file.content) ∨
        path = d.temporary c disk file.path ∧ disk.get? path = none)) ∧
    ∀ change ∈ (d.run c disk file).changes, ∀ path ∈ change.files,
      hasStart (disk.absolute d.root ++ "/") path = true := by
  have course := course_run d c disk file
  have stage : ∀ before later, (d.run c disk file).changes = before ++ later →
      Stage d c disk file (disk.applyAll before) := fun before later split =>
    course.stage rooted (split ▸ List.prefix_append before later)
  constructor
  · intro e failed path
    exact (course.kept_of_fault rooted failed path).file?
  constructor
  · intro succeeded
    rcases course.placed_of_no_fault rooted succeeded with
      ⟨isNew, -, complete, gone, kept⟩
    refine ⟨file?_of_get? complete, ?_, isNew, gone⟩
    intro path notTarget
    rcases eq_or_ne (d.temporary c disk file.path) path with rfl | notTemporary
    · have isGone := gone notTarget
      rw [Disk.file?, writeUnder, isGone, Disk.file?, isNew]
    · exact (kept path notTemporary.symm notTarget).file?
  constructor
  · intro overwrite present
    constructor
    · intro succeeded
      rcases course.placed_of_no_fault rooted succeeded with ⟨-, absent | ⟨allowed, -⟩, -⟩
      · exact present absent
      · rw [overwrite] at allowed
        cases allowed
    · intro before later split
      exact (stage before later split).get?_target overwrite present
  constructor
  · intro before later split path
    exact ⟨(stage before later split).directory, (stage before later split).file? path⟩
  · exact course.below rooted

/-- A disk with one generated file. -/
def generatedDisk : Disk :=
  ((Disk.new "/work").put "/work/out" .directory).put "/work/out/api.py" (.file 0o600 "old")

/-- The file is replaced, and stays as it was if the mode of the new one is refused. -/
theorem write_atomic_api :
    Path.isRooted generatedDisk.home = true ∧
      ((new "out").write generatedDisk false ⟨"api.py", "new"⟩).2 = none ∧
      ((new "out").write generatedDisk false ⟨"api.py", "new"⟩).1.file? "/work/out/api.py" =
        some (0o644, "new") ∧
      ((new "out").writeUnder
          { Circumstances.plain false generatedDisk with
            refusal := fun step => if step = .setMode then some (.failed "refused") else none }
          generatedDisk ⟨"api.py", "new"⟩).1.file? "/work/out/api.py" = some (0o600, "old") := by
  have rooted : Path.isRooted generatedDisk.home = true := by decide +kernel
  have target : (new "out").target generatedDisk "api.py" = "/work/out/api.py" := by
    decide +kernel
  have succeeded : ((new "out").write generatedDisk false ⟨"api.py", "new"⟩).2 = none := by
    decide +kernel
  refine ⟨rooted, succeeded, ?_, ?_⟩
  · rw [← target]
    exact ((write_atomic _ _ _ _ rooted).2.1 succeeded).1
  · refine ((write_atomic _ _ _ _ rooted).1 (.within "setting file mode" (.failed "refused"))
      ?_ _).trans ?_
    · decide +kernel
    · decide +kernel

end ApiCompiler.Directory
