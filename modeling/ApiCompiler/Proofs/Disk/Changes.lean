import ApiCompiler.Disk
import Mathlib.Data.List.Basic

/-!
# Changes of a disk

What stands at a path behind each kind of change, and what a run that makes missing directories
leaves as it was.
-/

namespace ApiCompiler

namespace OrderedMap

variable {V : Type}

theorem find_filter_ne (entries : List (String × V)) (key other : String) :
    find (entries.filter fun e => e.1 != key) other =
      if key = other then none else find entries other := by
  induction entries with
  | nil => simp [find]
  | cons e rest ih =>
    rcases e with ⟨k, v⟩
    by_cases gone : k = key
    · subst gone
      by_cases same : k = other
      · subst same
        simpa [find] using ih
      · simpa [find, same] using ih
    · by_cases hit : k = other
      · subst hit
        simp [find, gone, Ne.symm gone]
      · simp [find, gone, hit, ih]

/-- Removing a key removes what is found under it, and nothing else. -/
theorem get?_erase (m : OrderedMap V) (key other : String) :
    (m.erase key).get? other = if key = other then none else m.get? other :=
  find_filter_ne m.entries key other

end OrderedMap

namespace Disk

/-- The mode and the text of the file at an absolute path. -/
def file? (d : Disk) (path : String) : Option (Nat × String) :=
  match d.get? path with
  | some (.file mode text) => some (mode, text)
  | _ => none

@[simp] theorem home_put (d : Disk) (path : String) (entry : DiskEntry) :
    (d.put path entry).home = d.home := rfl

@[simp] theorem home_remove (d : Disk) (path : String) : (d.remove path).home = d.home := rfl

theorem get?_put {path : String} (notRoot : path ≠ "/") (d : Disk) (entry : DiskEntry)
    (other : String) :
    (d.put path entry).get? other = if path = other then some entry else d.get? other := by
  rw [get?, get?, put, OrderedMap.get?_insert]
  by_cases root : other = "/"
  · subst root
    simp [notRoot]
  · simp [root]

theorem get?_remove {path : String} (notRoot : path ≠ "/") (d : Disk) (other : String) :
    (d.remove path).get? other = if path = other then none else d.get? other := by
  rw [get?, get?, remove, OrderedMap.get?_erase]
  by_cases root : other = "/"
  · subst root
    simp [notRoot]
  · simp [root]

@[simp] theorem home_apply (d : Disk) (change : DiskChange) : (change.apply d).home = d.home := by
  cases change with
  | putFile path mode text => rfl
  | remove path => rfl
  | _ => rw [DiskChange.apply]; split <;> rfl

@[simp] theorem applyAll_nil (d : Disk) : d.applyAll [] = d := rfl

@[simp] theorem applyAll_cons (d : Disk) (change : DiskChange) (rest : List DiskChange) :
    d.applyAll (change :: rest) = (change.apply d).applyAll rest := rfl

theorem applyAll_append (d : Disk) (first second : List DiskChange) :
    d.applyAll (first ++ second) = (d.applyAll first).applyAll second := by
  simp [applyAll]

theorem home_applyAll (d : Disk) (changes : List DiskChange) :
    (d.applyAll changes).home = d.home := by
  induction changes generalizing d with
  | nil => rfl
  | cons change rest ih => rw [applyAll_cons, ih, home_apply]

/-- At a path a disk is as it was, or a directory was made there. -/
def Kept (before after : Disk) (path : String) : Prop :=
  after.get? path = before.get? path ∨
    before.get? path = none ∧ after.get? path = some .directory

namespace Kept

variable {before middle after : Disk} {path : String}

theorem trans (first : Kept before middle path) (second : Kept middle after path) :
    Kept before after path := by
  rcases first with same | ⟨absent, made⟩
  · rcases second with same' | ⟨absent', made'⟩
    · exact .inl (same'.trans same)
    · exact .inr ⟨same.symm.trans absent', made'⟩
  · rcases second with same' | ⟨absent', -⟩
    · exact .inr ⟨absent, same'.trans made⟩
    · rw [made] at absent'
      cases absent'

theorem directory (kept : Kept before after path) (was : before.get? path = some .directory) :
    after.get? path = some .directory := by
  rcases kept with same | ⟨absent, -⟩
  · exact same.trans was
  · rw [was] at absent
    cases absent

theorem file? (kept : Kept before after path) : after.file? path = before.file? path := by
  rcases kept with same | ⟨absent, made⟩
  · rw [Disk.file?, same, Disk.file?]
  · rw [Disk.file?, made, Disk.file?, absent]

theorem absent (kept : Kept before after path) (isFree : after.get? path = none) :
    before.get? path = none := by
  rcases kept with same | ⟨-, made⟩
  · exact same.symm.trans isFree
  · rw [made] at isFree
    cases isFree

end Kept

/-- The changes only make directories. -/
def MakesDirectories (changes : List DiskChange) : Prop :=
  ∀ change ∈ changes, ∃ path, change = .makeDirectory path

theorem kept_makeDirectory (d : Disk) (made path : String) :
    Kept d ((DiskChange.makeDirectory made).apply d) path := by
  rw [DiskChange.apply]
  split
  · rename_i absent
    have notRoot : made ≠ "/" := by
      rintro rfl
      simp [get?] at absent
    rw [Kept, get?_put notRoot]
    split
    · rename_i same
      exact .inr ⟨same ▸ absent, rfl⟩
    · exact .inl rfl
  · exact .inl rfl

/-- Making directories keeps what there is. -/
theorem MakesDirectories.kept {changes : List DiskChange} (made : MakesDirectories changes)
    (d : Disk) (path : String) : Kept d (d.applyAll changes) path := by
  induction changes generalizing d with
  | nil => exact .inl rfl
  | cons change rest ih =>
    rcases List.forall_mem_cons.mp made with ⟨⟨place, rfl⟩, others⟩
    exact (kept_makeDirectory d place path).trans (ih others _)

theorem MakesDirectories.of_prefix {changes before : List DiskChange}
    (made : MakesDirectories changes) (begins : before <+: changes) : MakesDirectories before :=
  fun change mem => made change (begins.subset mem)

theorem makesDirectories_makeMissing (d : Disk) (paths : List String) :
    MakesDirectories (d.makeMissing paths).changes := by
  induction paths generalizing d with
  | nil => exact List.forall_mem_nil _
  | cons path rest ih =>
    rw [makeMissing]
    dsimp only
    split
    · exact ih d
    · exact List.forall_mem_nil _
    · exact List.forall_mem_nil _
    · exact List.forall_mem_cons.mpr ⟨⟨_, rfl⟩, ih _⟩

end Disk

end ApiCompiler
