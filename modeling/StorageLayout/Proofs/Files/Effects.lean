import StorageLayout.Proofs.Files.Trees

/-!
# What operations on a tree leave alone

To put a file under a name, or to remove one, changes what is in this one place. To make directories
changes no file at all, even if not all of them can be made. In either case a path that led
somewhere still leads there.
-/
namespace StorageLayout.FileTree

variable {t t' : FileTree} {dir number : Nat} {name path : String}

/-- Every path still leads where it led, and except in the places that may change there are the same
files with the same contents. -/
structure KeepsFiles (mayChange : Place → Prop) (t t' : FileTree) : Prop where
  located : ∀ path place, t.locate path = .ok place → t'.locate path = .ok place
  files : ∀ place, ¬ mayChange place → ∀ content,
    t'.node? place = some (.file content) ↔ t.node? place = some (.file content)

namespace KeepsFiles

variable {mayChange : Place → Prop}

theorem refl (t : FileTree) : KeepsFiles mayChange t t := ⟨fun _ _ => id, fun _ _ _ => .rfl⟩

theorem trans {t'' : FileTree} (first : KeepsFiles mayChange t t')
    (second : KeepsFiles mayChange t' t'') : KeepsFiles mayChange t t'' where
  located path place located := second.located path place (first.located path place located)
  files place other content :=
    (second.files place other content).trans (first.files place other content)

theorem weaken (keeps : KeepsFiles (fun _ => False) t t') : KeepsFiles mayChange t t' :=
  ⟨keeps.located, fun place _ => keeps.files place id⟩

end KeepsFiles

/-- What is in a place other than the one that is changed. -/
theorem node?_modify_of_ne {change : Dictionary Node → Dictionary Node} {node : Option Node}
    (only : ChangesOnly name node change) {place : Place} (other : place ≠ .entry dir name) :
    FileTree.node? (t.modify dir change) place = t.node? place := by
  cases place with
  | directory number => rfl
  | entry number key =>
    have elsewhere : ¬((number = dir ∧ number < t.directories.size) ∧ key = name) := by
      rintro ⟨⟨rfl, -⟩, rfl⟩
      exact other rfl
    simp only [node?, entry?_modify only, if_neg elsewhere]

/-- A file that is put where no directory is changes this place and no other. -/
theorem keepsFiles_put {content : ByteArray}
    (no_directory : ∀ inner, t.entry? dir name ≠ some (.directory inner)) :
    KeepsFiles (· = .entry dir name) t (t.put dir name (.file content)) where
  located _ _ := (SameDirectories.put no_directory).keeps.locate
  files place other content' := by rw [put, node?_modify_of_ne (changesOnly_insert _ _) other]

theorem keepsFiles_remove
    (no_directory : ∀ inner, t.entry? dir name ≠ some (.directory inner)) :
    KeepsFiles (· = .entry dir name) t (t.remove dir name) where
  located _ _ := (SameDirectories.remove no_directory).keeps.locate
  files place other content := by rw [remove, node?_modify_of_ne (changesOnly_erase _) other]

section MakingDirectories

theorem directory_putDirectory (t : FileTree) (dir number : Nat) (name : String) :
    FileTree.directory (t.putDirectory dir name) number =
      if number = t.directories.size then { outer := dir }
      else FileTree.directory (t.put dir name (.directory t.directories.size)) number := by
  unfold directory putDirectory put
  simp only [Array.getD_eq_getD_getElem?, Array.getElem?_push, size_modify]
  split <;> rfl

theorem entry?_of_size_le (outside : t.directories.size ≤ number) (name : String) :
    t.entry? number name = none := by
  have no_directory : t.directory number = {} := by
    unfold directory
    simp [Array.getD_eq_getD_getElem?, Array.getElem?_eq_none outside]
  unfold entry?
  rw [no_directory]
  rfl

/-- A new directory is the only thing that is new. -/
theorem entry?_putDirectory (inside : dir < t.directories.size) (number : Nat)
    (name key : String) :
    FileTree.entry? (t.putDirectory dir name) number key =
      if number = dir ∧ key = name then some (.directory t.directories.size)
      else t.entry? number key := by
  have entry := entry?_put t dir number name key (.directory t.directories.size)
  unfold entry? at entry ⊢
  rw [directory_putDirectory]
  split
  · next last =>
    have outside : ¬(number = dir ∧ key = name) := by
      rintro ⟨rfl, -⟩
      exact absurd last (Nat.ne_of_lt inside)
    have empty := entry?_of_size_le (Nat.le_of_eq last.symm) key
    rw [if_neg outside]
    exact empty.symm
  · rw [entry]
    by_cases here : number = dir
    · simp [here, inside]
    · simp [here]

theorem keepsDirectories_putDirectory (inside : dir < t.directories.size)
    (absent : t.entry? dir name = none) : KeepsDirectories t (t.putDirectory dir name) where
  size := by simp [putDirectory, put]
  outer number old := by
    rw [directory_putDirectory, if_neg (Nat.ne_of_lt old), put, outer_modify]
  subdirectories number key inner entry := by
    rw [entry?_putDirectory inside, if_neg, entry]
    rintro ⟨rfl, rfl⟩
    rw [absent] at entry
    cases entry

/-- A new directory is under a name at which there was no file. -/
theorem keepsFiles_putDirectory (inside : dir < t.directories.size)
    (absent : t.entry? dir name = none) :
    KeepsFiles (fun _ => False) t (t.putDirectory dir name) where
  located _ _ := (keepsDirectories_putDirectory inside absent).locate
  files place _ content := by
    cases place with
    | directory number => rfl
    | entry number key =>
      simp only [node?, entry?_putDirectory inside]
      split
      · next here =>
        obtain ⟨rfl, rfl⟩ := here
        simp [absent]
      · rfl

/-- A directory is made in a directory that is there, under a name that nothing has. -/
theorem exists_of_makeDirectory (made : t.makeDirectory path = .ok t') :
    ∃ dir name, dir < t.directories.size ∧ t.entry? dir name = none ∧
      t' = t.putDirectory dir name := by
  obtain ⟨target, located, made⟩ := bind_eq_ok_iff.1 made
  cases target with
  | none => cases made
  | some target =>
    obtain ⟨dir, name⟩ := target
    obtain ⟨_, -, made⟩ := bind_eq_ok_iff.1 made
    have inside : dir < t.directories.size := by
      obtain ⟨_, -, located⟩ := bind_eq_ok_iff.1 located
      split at located
      · cases located
      · obtain ⟨place, -, located⟩ := bind_eq_ok_iff.1 located
        obtain ⟨dir', there, located⟩ := bind_eq_ok_iff.1 located
        split at located
        · cases located
        · obtain ⟨rfl, -⟩ := Prod.mk.inj (Option.some.inj (Except.ok.inj located))
          exact lt_size_of_directoryAt there
    refine ⟨dir, name, inside, ?_⟩
    cases entry : t.entry? dir name with
    | some node =>
      rw [entry] at made
      cases made
    | none =>
      rw [entry] at made
      exact ⟨rfl, (Except.ok.inj made).symm⟩

/-- Whatever comes of it, a computation leaves all files as they are. -/
def LeavesFiles {α : Type} (x : StateM FileTree α) : Prop :=
  ∀ t, KeepsFiles (fun _ => False) t (x t).2

theorem leavesFiles_pure {α : Type} (a : α) : LeavesFiles (pure a) := KeepsFiles.refl

theorem LeavesFiles.bind {α β : Type} {x : StateM FileTree α} {next : α → StateM FileTree β}
    (first : LeavesFiles x) (second : ∀ a, LeavesFiles (next a)) : LeavesFiles (x >>= next) :=
  fun t => (first t).trans (second (x t).1 (x t).2)

theorem leavesFiles_makeDirectory (path : String) :
    LeavesFiles (FileSystem.makeDirectory path : StateM FileTree _) := by
  intro t
  change KeepsFiles _ t (updating (·.makeDirectory path) t).2
  rw [updating]
  cases made : t.makeDirectory path with
  | error e => exact .refl t
  | ok t' =>
    obtain ⟨dir, name, inside, absent, rfl⟩ := exists_of_makeDirectory made
    exact keepsFiles_putDirectory inside absent

theorem leavesFiles_unlessDirectory (path : String) (failure : FileError) :
    LeavesFiles (FileSystem.unlessDirectory path failure : StateM FileTree _) := by
  have asked : LeavesFiles (FileSystem.isDirectory path : StateM FileTree Bool) := .refl
  refine asked.bind fun there => ?_
  cases there
  · exact leavesFiles_pure _
  · exact leavesFiles_pure _

/-- Making directories changes no file, also when it fails halfway. -/
theorem leavesFiles_makeFirst (paths : List String) :
    LeavesFiles (FileSystem.makeFirst paths : StateM FileTree _) := by
  induction paths with
  | nil => exact leavesFiles_pure _
  | cons path outer ih =>
    rw [FileSystem.makeFirst]
    refine (leavesFiles_makeDirectory path).bind fun outcome => ?_
    split
    · exact leavesFiles_pure _
    · -- A directory around this one is missing, so those are made first and then this one again.
      refine ih.bind fun around => ?_
      split
      · exact leavesFiles_pure _
      · refine (leavesFiles_makeDirectory path).bind fun again => ?_
        split
        · exact leavesFiles_pure _
        · exact leavesFiles_unlessDirectory path _
    · exact leavesFiles_unlessDirectory path _

theorem leavesFiles_makeDirectories (path : String) :
    LeavesFiles (FileSystem.makeDirectories path : StateM FileTree _) := by
  rw [FileSystem.makeDirectories]
  split
  · exact leavesFiles_pure _
  · exact leavesFiles_makeFirst _

end MakingDirectories

end StorageLayout.FileTree
