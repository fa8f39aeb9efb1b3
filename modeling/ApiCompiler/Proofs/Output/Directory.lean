import ApiCompiler.Output.Directory
import ApiCompiler.Proofs.Disk.Changes
import ApiCompiler.Proofs.Path.Clean

/-!
# A file is written whole or not at all

A write makes directories, fills a temporary file beside the target, and then either removes it or
puts it in place. What it does is one of three courses; whatever fails, and wherever the changes of
a course are interrupted, every file is the old one or the complete new one.
-/

namespace ApiCompiler

open Text Disk

/-- The paths at which a change makes, replaces or removes a file. -/
def DiskChange.files : DiskChange → List String
  | makeDirectory _ => []
  | putFile path _ _ => [path]
  | move source target => [source, target]
  | link source target => [source, target]
  | remove path => [path]

namespace Directory

/-! ### Where a write takes place -/

theorem isName_temporaryName (number : Nat) : Path.IsName (temporaryName number) := by
  have chars : (temporaryName number).toList =
      ".cytonic-".toList ++ Nat.toDigits 10 number ++ ".tmp".toList := by
    simp [temporaryName, Nat.repr]
  have long : 2 < (temporaryName number).toList.length := by
    rw [chars]
    simp
  constructor
  case plain =>
    rw [chars, List.mem_append, List.mem_append, not_or, not_or]
    refine ⟨⟨by decide, ?_⟩, by decide⟩
    intro mem
    have digit := Nat.isDigit_of_mem_toDigits (by omega) (by omega) mem
    revert digit
    decide
  all_goals
    intro same
    rw [same] at long
    revert long
    decide

/-- The temporary file stands in the directory of the file. -/
theorem temporary_eq (d : Directory) (c : Circumstances) {disk : Disk}
    (rooted : Path.isRooted disk.home = true) (path : String) :
    d.temporary c disk path = Disk.ofParts
      (temporaryName c.number :: Path.partsFrom disk.home (d.directoryOf path)) := by
  have name := isName_temporaryName c.number
  have names := Path.names_partsFrom disk.home (d.directoryOf path)
  rw [temporary, Disk.absolute, Path.absolute_eq rooted]
  generalize Path.partsFrom disk.home (d.directoryOf path) = place at names ⊢
  have isRootedPlace : Path.isRooted (Disk.ofParts place) = true := by
    rw [Path.isRooted_iff]
    exact ⟨_, by rw [Disk.ofParts, String.toList_append]; rfl⟩
  have ne_empty : Disk.ofParts place ≠ "" := by
    intro empty
    rw [empty] at isRootedPlace
    cases isRootedPlace
  have whole : Path.isRooted (Disk.ofParts place ++ "/" ++ temporaryName c.number) = true := by
    rcases (Path.isRooted_iff _).mp isRootedPlace with ⟨rest, chars⟩
    rw [Path.isRooted_iff]
    exact ⟨rest ++ '/' :: (temporaryName c.number).toList, by simp [chars]⟩
  have joined : Path.join [Disk.ofParts place, temporaryName c.number] =
      Path.clean (Disk.ofParts place ++ "/" ++ temporaryName c.number) := by
    simp [Path.join, ne_empty, name.ne_empty, joinWith, String.intercalate_cons_cons,
      String.append_assoc]
  rw [joined, Path.clean_of_isRooted whole, split_slash, Path.walk_append,
    Path.walk_ofParts names, split_of_not_mem name.plain, Path.walk_cons, Path.walk_nil,
    Path.step_of_isName name]

/-- A temporary file lies below the directory, like the file that it is for. -/
theorem temporary_below (d : Directory) (c : Circumstances) {disk : Disk}
    (rooted : Path.isRooted disk.home = true) {path : String}
    (below : d.holds disk path = true) :
    hasStart (disk.absolute d.root ++ "/") (d.temporary c disk path) = true := by
  rcases Path.partsFrom_directory disk.home (d.locate path) with ⟨last, plain, led⟩
  have target : disk.absolute (d.locate path) =
      Disk.ofParts (Path.step true (Path.partsFrom disk.home (d.directoryOf path)) last) := by
    rw [Disk.absolute, Path.absolute_eq rooted, led, directoryOf]
  rw [holds, target] at below
  rw [temporary_eq d c rooted]
  exact Path.hasStart_sibling (Path.names_partsFrom _ _) plain below

/-- What lies below a directory is not the root of all paths. -/
theorem ne_root_of_below {disk : Disk} (rooted : Path.isRooted disk.home = true)
    {root path : String} (below : hasStart (disk.absolute root ++ "/") path = true) :
    path ≠ "/" := by
  rintro rfl
  rw [Path.hasStart_iff, Disk.absolute, Path.absolute_eq rooted, Disk.ofParts] at below
  have short := below.length_le
  simp at short

/-! ### The courses of a write -/

variable (d : Directory) (c : Circumstances) (disk : Disk) (file : OutputFile)

/-- The changes only make or fill the temporary file. -/
def AreDrafts (temporary : String) (changes : List DiskChange) : Prop :=
  ∀ change ∈ changes, ∃ mode text, change = .putFile temporary mode text

/-- The temporary file may be put in place of what stands at the target. -/
def MayReplace (entry : Option DiskEntry) : Prop :=
  entry = none ∨ d.overwrite = true ∧ entry ≠ some .directory

/-- What a write can do to a disk: it fails before it makes its temporary file, it fails behind
that and removes it, or it puts the complete file in place. -/
inductive Course : DiskRun → Prop
  | unbegun {made : List DiskChange} (e : Error) (directories : MakesDirectories made) :
      Course ⟨made, some e⟩
  | abandoned {made drafts : List DiskChange} (e : Error) (below : d.holds disk file.path = true)
      (directories : MakesDirectories made)
      (isNew : (disk.applyAll made).get? (d.temporary c disk file.path) = none)
      (filled : AreDrafts (d.temporary c disk file.path) drafts) :
      Course ⟨made ++ drafts ++ [.remove (d.temporary c disk file.path)], some e⟩
  | placed {made drafts : List DiskChange} (below : d.holds disk file.path = true)
      (directories : MakesDirectories made)
      (isNew : (disk.applyAll made).get? (d.temporary c disk file.path) = none)
      (filled : AreDrafts (d.temporary c disk file.path) drafts)
      (complete : drafts.getLast? =
        some (.putFile (d.temporary c disk file.path) d.fileMode file.content))
      (free : d.MayReplace ((disk.applyAll (made ++ drafts)).get? (d.target disk file.path))) :
      Course ⟨made ++ drafts ++
        d.place (d.temporary c disk file.path) (d.target disk file.path), none⟩

theorem makesDirectories_makeParents :
    MakesDirectories (d.makeParents c disk file.path).changes := by
  have made := Disk.makesDirectories_makeMissing disk (Disk.chain (d.directoryOf file.path))
  cases refused : d.refused c [.makeDirectories] with
  | some e =>
    simp only [makeParents, refused]
    exact made.of_prefix (List.take_prefix _ _)
  | none =>
    simp only [makeParents, refused]
    exact made

theorem areDrafts_fill (temporary content : String) :
    AreDrafts temporary (d.fill c temporary content).changes := by
  rw [fill]
  dsimp only
  split <;> simp [AreDrafts]

theorem getLast?_fill {temporary content : String}
    (succeeds : (d.fill c temporary content).fault = none) :
    (d.fill c temporary content).changes.getLast? =
      some (.putFile temporary d.fileMode content) := by
  rw [fill] at succeeds ⊢
  dsimp only at succeeds ⊢
  split at succeeds
  · cases succeeds
  · cases succeeds
  · rfl

variable {d c} in
theorem get?_of_uncreated {disk : Disk} {path : String}
    (free : d.uncreated c disk path = none) : disk.get? (d.temporary c disk path) = none := by
  cases refused : d.refused c [.createTemporary] with
  | some e => simp [uncreated, refused] at free
  | none =>
    cases found : disk.get? (d.temporary c disk path) with
    | none => rfl
    | some entry => simp [uncreated, refused, found] at free

variable {d c} in
theorem mayReplace_of_unplaced {disk : Disk} {path : String}
    (free : d.unplaced c disk path = none) : d.MayReplace (disk.get? (d.target disk path)) := by
  cases refused : d.refused c [.putInPlace] with
  | some e => simp [unplaced, refused] at free
  | none =>
    cases found : disk.get? (d.target disk path) with
    | none => exact .inl rfl
    | some entry =>
      cases overwrite : d.overwrite with
      | false => simp [unplaced, refused, found, overwrite] at free
      | true =>
        refine .inr ⟨overwrite, ?_⟩
        intro same
        cases same
        simp [unplaced, refused, found, overwrite] at free

/-- A write takes one of the three courses. -/
theorem course_run : Course d c disk file (d.run c disk file) := by
  rw [run]
  split
  · exact .unbegun _ (List.forall_mem_nil _)
  split
  · exact .unbegun _ (List.forall_mem_nil _)
  rename_i isBelow
  have below : d.holds disk file.path = true := by simpa using isBelow
  have directories := makesDirectories_makeParents d c disk file
  have home : (disk.applyAll (d.makeParents c disk file.path).changes).home = disk.home :=
    disk.home_applyAll _
  have sameTemporary : ∀ {other : Disk}, other.home = disk.home →
      d.temporary c other file.path = d.temporary c disk file.path := by
    intro other same
    rw [temporary, temporary, Disk.absolute, Disk.absolute, same]
  have sameTarget : ∀ {other : Disk}, other.home = disk.home →
      d.target other file.path = d.target disk file.path := by
    intro other same
    rw [target, target, Disk.absolute, Disk.absolute, same]
  rw [writeAtomically]
  dsimp only
  split
  · exact .unbegun _ directories
  rename_i begun
  have isNew := get?_of_uncreated (Option.or_eq_none_iff.mp begun).2
  rw [sameTemporary home] at isNew ⊢
  have filled := areDrafts_fill d c (d.temporary c disk file.path) file.content
  split
  · exact .abandoned _ below directories isNew filled
  rename_i ended
  rcases Option.or_eq_none_iff.mp ended with ⟨unfailed, free⟩
  have complete := getLast?_fill d c (Option.or_eq_none_iff.mp unfailed).1
  have mayReplace := mayReplace_of_unplaced free
  have home' := ((disk.applyAll (d.makeParents c disk file.path).changes).home_applyAll
    (d.fill c (d.temporary c disk file.path) file.content).changes).trans home
  rw [sameTarget home'] at mayReplace ⊢
  rw [← applyAll_append] at mayReplace
  exact .placed below directories isNew filled complete mayReplace

end Directory

end ApiCompiler
