import StorageLayout.Proofs.Dictionary
import StorageLayout.Proofs.Files.Paths
import StorageLayout.Proofs.Lists

/-!
# Where a path leads in a tree

A path is resolved by way of directories only. So a name at the end of a path is looked up in the
directory that the rest of the path leads to, and what happens to files does not change where a path
leads.
-/
namespace StorageLayout.FileTree

variable {t t' : FileTree} {dir name : String} {number : Nat}

/-- The content of one directory is changed, and no other directory. -/
theorem directory_modify (t : FileTree) (dir number : Nat)
    (change : Dictionary Node → Dictionary Node) :
    (t.modify dir change).directory number =
      if number = dir ∧ number < t.directories.size then
        { t.directory number with nodes := change (t.directory number).nodes }
      else t.directory number := by
  simp only [directory, modify, Array.getD_eq_getD_getElem?, Array.getElem?_modify]
  by_cases inside : number < t.directories.size
  · by_cases same : dir = number
    · simp [same, inside]
    · simp [same, inside, Ne.symm same]
  · simp [inside]

@[simp] theorem size_modify (t : FileTree) (dir : Nat)
    (change : Dictionary Node → Dictionary Node) :
    (t.modify dir change).directories.size = t.directories.size := by
  simp [modify]

@[simp] theorem outer_modify (t : FileTree) (dir number : Nat)
    (change : Dictionary Node → Dictionary Node) :
    ((t.modify dir change).directory number).outer = (t.directory number).outer := by
  rw [directory_modify]
  split <;> rfl

/-- A change of the content of a directory is about one name, under which there is then what is
given. -/
def ChangesOnly (name : String) (node : Option Node) (change : Dictionary Node → Dictionary Node) :
    Prop :=
  ∀ nodes key, (change nodes).find? key = if key = name then node else nodes.find? key

theorem changesOnly_insert (name : String) (node : Node) :
    ChangesOnly name (some node) (·.insert name node) :=
  fun nodes key => nodes.find?_insert name key node

theorem changesOnly_erase (name : String) : ChangesOnly name none (·.erase name) :=
  fun nodes key => nodes.find?_erase name key

/-- Under the name there is what is given, and nothing else has changed. -/
theorem entry?_modify {change : Dictionary Node → Dictionary Node} {node : Option Node}
    (only : ChangesOnly name node change) (t : FileTree) (dir number : Nat) (key : String) :
    FileTree.entry? (t.modify dir change) number key =
      if (number = dir ∧ number < t.directories.size) ∧ key = name then node
      else t.entry? number key := by
  unfold entry?
  rw [directory_modify]
  by_cases here : number = dir ∧ number < t.directories.size
  · obtain ⟨rfl, inside⟩ := here
    simp [inside, only _ key]
  · rw [if_neg here]
    simp [here]

theorem entry?_put (t : FileTree) (dir number : Nat) (name key : String) (node : Node) :
    FileTree.entry? (t.put dir name node) number key =
      if (number = dir ∧ number < t.directories.size) ∧ key = name then some node
      else t.entry? number key :=
  entry?_modify (changesOnly_insert name node) t dir number key

theorem entry?_remove (t : FileTree) (dir number : Nat) (name key : String) :
    FileTree.entry? (t.remove dir name) number key =
      if (number = dir ∧ number < t.directories.size) ∧ key = name then none
      else t.entry? number key :=
  entry?_modify (changesOnly_erase name) t dir number key

/-- A place is a directory if its node says so with a number that is in the table. -/
theorem directoryAt_eq_ok_iff {place : Place} :
    t.directoryAt place = .ok number ↔
      t.node? place = some (.directory number) ∧ number < t.directories.size := by
  unfold directoryAt
  split
  · next absent => simp [absent]
  · next content file => simp [file]
  · next inner directory =>
    rw [directory]
    split
    · next inside =>
      constructor
      · intro found
        obtain rfl := Except.ok.inj found
        exact ⟨rfl, inside⟩
      · rintro ⟨same, -⟩
        cases same
        rfl
    · next outside =>
      constructor
      · intro found
        cases found
      · rintro ⟨same, inside⟩
        cases same
        exact absurd inside outside

theorem lt_size_of_directoryAt {place : Place} (found : t.directoryAt place = .ok number) :
    number < t.directories.size :=
  (directoryAt_eq_ok_iff.1 found).2

/-- The directory to which names lead from the top. -/
def directoryOf (t : FileTree) (names : List String) : Except FileError Nat := do
  t.directoryAt (← t.walk names)

theorem exists_walk_of_directoryOf {names : List String}
    (found : t.directoryOf names = .ok number) :
    ∃ place, t.walk names = .ok place ∧ t.directoryAt place = .ok number :=
  bind_eq_ok_iff.1 found

theorem step_of_plain (plain : Path.IsPlain name) (place : Place) :
    t.step place name = do
      let dir ← t.directoryAt place
      Path.checkName name
      return .entry dir name := by
  have relative := plain.not_relative
  simp only [isRelativeName, Bool.or_eq_false_iff, decide_eq_false_iff_not] at relative
  simp [step, relative]

/-- A path is taken to the directory where it leads whether or not it ends in a slash. -/
theorem directoryAt_locate (t : FileTree) (path : String) :
    (do t.directoryAt (← t.locate path)) = (do
      Path.check path
      t.directoryOf (Path.names path)) := by
  unfold locate directoryOf
  cases Path.check path with
  | error e => rfl
  | ok _ =>
    cases t.walk (Path.names path) with
    | error e => rfl
    | ok place =>
      by_cases slash : Path.endsInSlash path
      · simp only [slash, if_true]
        cases found : t.directoryAt place with
        | error e => simp [bind, Except.bind, found]
        | ok number =>
          have again : t.directoryAt (.directory number) = .ok number :=
            directoryAt_eq_ok_iff.2 ⟨rfl, lt_size_of_directoryAt found⟩
          simp [bind, Except.bind, found, pure, Except.pure, again]
      · simp [slash, bind, Except.bind, pure, Except.pure]

theorem entries_eq (t : FileTree) (path : String) :
    t.entries path = (do
      Path.check path
      let number ← t.directoryOf (Path.names path)
      return (t.directory number).nodes.keys) := by
  have located := directoryAt_locate t path
  unfold entries
  rw [← bind_assoc, located, bind_assoc]

theorem entries_eq_ok_iff {path : String} {listed : List String} :
    t.entries path = .ok listed ↔
      Path.check path = .ok () ∧ ∃ number, t.directoryOf (Path.names path) = .ok number ∧
        (t.directory number).nodes.keys = listed := by
  rw [entries_eq]
  cases Path.check path with
  | error e => simp [bind, Except.bind]
  | ok _ =>
    cases t.directoryOf (Path.names path) with
    | error e => simp [bind, Except.bind]
    | ok number => simp [bind, Except.bind, pure, Except.pure]

theorem walk_append (t : FileTree) (front : List String) (name : String) :
    t.walk (front ++ [name]) = t.walk front >>= fun place => t.step place name := by
  rw [walk, List.foldlM_append]
  simp [walk]

/-- The walk to a plain name goes to the directory around it and stays there. -/
theorem walk_plain (plain : Path.IsPlain name) (t : FileTree) (front : List String) :
    t.walk (front ++ [name]) = do
      let number ← t.directoryOf front
      Path.checkName name
      return .entry number name := by
  rw [walk_append, directoryOf, bind_assoc]
  simp only [step_of_plain plain]

theorem locate_join (plain : Path.IsPlain name) (t : FileTree) (dir : String) :
    t.locate (Path.join dir name) = do
      Path.check (Path.join dir name)
      let number ← t.directoryOf (Path.names dir)
      Path.checkName name
      return .entry number name := by
  rw [locate, Path.names_join plain, walk_plain plain, Path.endsInSlash_join plain]
  simp

theorem locateEntry?_join (plain : Path.IsPlain name) (t : FileTree) (dir : String) :
    t.locateEntry? (Path.join dir name) = do
      Path.check (Path.join dir name)
      let number ← t.directoryOf (Path.names dir)
      return some (number, name) := by
  unfold locateEntry?
  rw [Path.names_join plain]
  simp [plain.not_relative, directoryOf]

/-- A directory is found at a path, and a plain name can be used in it. -/
structure Reaches (t : FileTree) (dir name : String) (number : Nat) : Prop where
  plain : Path.IsPlain name
  checked : Path.check (Path.join dir name) = .ok ()
  fits : Path.checkName name = .ok ()
  found : t.directoryOf (Path.names dir) = .ok number

namespace Reaches

variable (reaches : t.Reaches dir name number)
include reaches

theorem lt_size : number < t.directories.size := by
  obtain ⟨place, -, there⟩ := exists_walk_of_directoryOf reaches.found
  exact lt_size_of_directoryAt there

theorem opens : t.locateEntry? (Path.join dir name) = .ok (some (number, name)) := by
  rw [locateEntry?_join reaches.plain, reaches.checked, reaches.found]
  rfl

theorem locate : t.locate (Path.join dir name) = .ok (.entry number name) := by
  rw [locate_join reaches.plain, reaches.checked, reaches.found, reaches.fits]
  rfl

theorem find : t.find (Path.join dir name) =
    match t.entry? number name with
    | none => .error .missing
    | some node => .ok node := by
  rw [FileTree.find, reaches.locate]
  rfl

/-- A file in a directory is read as a text, unless there is a reason why it cannot be. -/
theorem readText : t.readText (Path.join dir name) =
    match t.entry? number name with
    | none => .error .missing
    | some (.directory _) => .error .isDirectory
    | some (.file content) =>
      match String.fromUTF8? content with
      | none => .error .notText
      | some text => .ok text := by
  rw [FileTree.readText, readBytes, reaches.find]
  rcases t.entry? number name with _ | _ | content
  · rfl
  · rfl
  · rfl

theorem isFile : t.isFile (Path.join dir name) =
    match t.entry? number name with
    | some (.file _) => true
    | _ => false := by
  rw [FileTree.isFile, reaches.find]
  rcases t.entry? number name with _ | _ | content <;> rfl

theorem writeText (content : String) : t.writeText (Path.join dir name) content =
    match t.entry? number name with
    | some (.directory _) => .error .isDirectory
    | _ => .ok (t.put number name (.file content.toUTF8)) := by
  have no_slash := Path.endsInSlash_join reaches.plain dir
  rw [FileTree.writeText, writeBytes, reaches.opens]
  rcases entry : t.entry? number name with _ | _ | content <;>
    simp [bind, Except.bind, no_slash, reaches.fits, entry]

theorem removeFile : t.removeFile (Path.join dir name) =
    match t.entry? number name with
    | none => .error .missing
    | some (.directory _) => .error .isDirectory
    | some (.file _) => .ok (t.remove number name) := by
  have no_slash := Path.endsInSlash_join reaches.plain dir
  rw [FileTree.removeFile, reaches.opens]
  rcases entry : t.entry? number name with _ | _ | content <;>
    simp [bind, Except.bind, no_slash, reaches.fits, entry]

end Reaches

/-- A path that leads to a name behind a directory has found the directory. -/
theorem exists_reaches_of_locate (plain : Path.IsPlain name) {place : Place}
    (located : t.locate (Path.join dir name) = .ok place) :
    ∃ number, t.Reaches dir name number ∧ place = .entry number name := by
  rw [locate_join plain] at located
  obtain ⟨_, checked, located⟩ := bind_eq_ok_iff.1 located
  obtain ⟨number, found, located⟩ := bind_eq_ok_iff.1 located
  obtain ⟨_, fits, located⟩ := bind_eq_ok_iff.1 located
  exact ⟨number, ⟨plain, checked, fits, found⟩, (Except.ok.inj located).symm⟩

/-- What is opened to be changed need not have a name that fits, as this is seen to afterwards. -/
theorem exists_reaches_of_locateEntry? (plain : Path.IsPlain name) {target : Option (Nat × String)}
    (located : t.locateEntry? (Path.join dir name) = .ok target) :
    ∃ number, target = some (number, name) ∧
      (Path.checkName name = .ok () → t.Reaches dir name number) := by
  rw [locateEntry?_join plain] at located
  obtain ⟨_, checked, located⟩ := bind_eq_ok_iff.1 located
  obtain ⟨number, found, located⟩ := bind_eq_ok_iff.1 located
  exact ⟨number, (Except.ok.inj located).symm, fun fits => ⟨plain, checked, fits, found⟩⟩

/-- A file that is found behind a directory is in it. -/
theorem exists_reaches_of_find (plain : Path.IsPlain name) {node : Node}
    (there : t.find (Path.join dir name) = .ok node) :
    ∃ number, t.Reaches dir name number ∧ t.entry? number name = some node := by
  obtain ⟨place, located, -⟩ := bind_eq_ok_iff.1 there
  obtain ⟨number, reaches, -⟩ := exists_reaches_of_locate plain located
  refine ⟨number, reaches, ?_⟩
  rw [reaches.find] at there
  cases entry : t.entry? number name with
  | none =>
    rw [entry] at there
    cases there
  | some node' =>
    rw [entry] at there
    rw [Except.ok.inj there]

theorem isFile_iff (t : FileTree) (path : String) :
    t.isFile path ↔ ∃ content, t.find path = .ok (.file content) := by
  unfold isFile
  rcases t.find path with _ | _ | content <;> simp

/-- What can be written behind a directory has been put into it, where no directory was. -/
theorem exists_reaches_of_writeText (plain : Path.IsPlain name) {content : String}
    (written : t.writeText (Path.join dir name) content = .ok t') :
    ∃ number, t.Reaches dir name number ∧
      (∀ inner, t.entry? number name ≠ some (.directory inner)) ∧
      t' = t.put number name (.file content.toUTF8) := by
  obtain ⟨target, located, opened⟩ := bind_eq_ok_iff.1 written
  obtain ⟨number, rfl, reached⟩ := exists_reaches_of_locateEntry? plain located
  have fits : Path.checkName name = .ok () := by
    simp only [Path.endsInSlash_join plain, Bool.false_eq_true, if_false] at opened
    obtain ⟨_, fits, -⟩ := bind_eq_ok_iff.1 opened
    exact fits
  have reaches := reached fits
  rw [reaches.writeText] at written
  refine ⟨number, reaches, fun inner directory => ?_, ?_⟩
  · rw [directory] at written
    cases written
  · split at written
    · cases written
    · exact (Except.ok.inj written).symm

/-- What can be removed behind a directory was a file in it. -/
theorem exists_reaches_of_removeFile (plain : Path.IsPlain name)
    (removed : t.removeFile (Path.join dir name) = .ok t') :
    ∃ number content, t.Reaches dir name number ∧
      t.entry? number name = some (.file content) ∧ t' = t.remove number name := by
  obtain ⟨target, located, opened⟩ := bind_eq_ok_iff.1 removed
  obtain ⟨number, rfl, reached⟩ := exists_reaches_of_locateEntry? plain located
  obtain ⟨_, fits, -⟩ := bind_eq_ok_iff.1 opened
  have reaches := reached fits
  rw [reaches.removeFile] at removed
  rcases entry : t.entry? number name with _ | _ | content
  · rw [entry] at removed
    cases removed
  · rw [entry] at removed
    cases removed
  · rw [entry] at removed
    exact ⟨number, content, reaches, entry, (Except.ok.inj removed).symm⟩

/-- The directories of a tree are all in another tree as well, each in its place. -/
structure KeepsDirectories (t t' : FileTree) : Prop where
  size : t.directories.size ≤ t'.directories.size
  outer : ∀ number < t.directories.size,
    (t'.directory number).outer = (t.directory number).outer
  subdirectories : ∀ number name inner,
    t.entry? number name = some (.directory inner) → t'.entry? number name = some (.directory inner)

namespace KeepsDirectories

variable (keeps : KeepsDirectories t t')
include keeps

theorem directoryAt {place : Place} (found : t.directoryAt place = .ok number) :
    t'.directoryAt place = .ok number := by
  obtain ⟨node, inside⟩ := directoryAt_eq_ok_iff.1 found
  refine directoryAt_eq_ok_iff.2 ⟨?_, Nat.lt_of_lt_of_le inside keeps.size⟩
  cases place with
  | directory number' => exact node
  | entry dir name => exact keeps.subdirectories dir name number node

theorem step {place place' : Place} (stepped : t.step place name = .ok place') :
    t'.step place name = .ok place' := by
  obtain ⟨dir, found, stepped⟩ := bind_eq_ok_iff.1 stepped
  refine bind_eq_ok_iff.2 ⟨dir, keeps.directoryAt found, ?_⟩
  rwa [keeps.outer dir (lt_size_of_directoryAt found)]

theorem walk_from {names : List String} {place place' : Place}
    (walked : names.foldlM t.step place = .ok place') :
    names.foldlM t'.step place = .ok place' := by
  induction names generalizing place with
  | nil => exact walked
  | cons name rest ih =>
    rw [List.foldlM_cons] at walked ⊢
    obtain ⟨next, stepped, walked⟩ := bind_eq_ok_iff.1 walked
    exact bind_eq_ok_iff.2 ⟨next, keeps.step stepped, ih walked⟩

/-- Names still lead to the directory to which they led. -/
theorem directoryOf {names : List String} (found : t.directoryOf names = .ok number) :
    t'.directoryOf names = .ok number := by
  obtain ⟨place, walked, there⟩ := exists_walk_of_directoryOf found
  have walked' : t'.walk names = .ok place := keeps.walk_from walked
  rw [FileTree.directoryOf, walked']
  exact keeps.directoryAt there

theorem reaches (reaches : t.Reaches dir name number) : t'.Reaches dir name number :=
  ⟨reaches.plain, reaches.checked, reaches.fits, keeps.directoryOf reaches.found⟩

/-- A path still leads where it led. -/
theorem locate {path : String} {place : Place} (located : t.locate path = .ok place) :
    t'.locate path = .ok place := by
  obtain ⟨_, checked, located⟩ := bind_eq_ok_iff.1 located
  obtain ⟨last, walked, located⟩ := bind_eq_ok_iff.1 located
  have walked' : t'.walk (Path.names path) = .ok last := keeps.walk_from walked
  refine bind_eq_ok_iff.2 ⟨_, checked, bind_eq_ok_iff.2 ⟨last, walked', ?_⟩⟩
  split at located
  · next slash =>
    obtain ⟨number, found, located⟩ := bind_eq_ok_iff.1 located
    rw [if_pos slash]
    exact bind_eq_ok_iff.2 ⟨number, keeps.directoryAt found, located⟩
  · next no_slash =>
    rw [if_neg no_slash]
    exact located

end KeepsDirectories

/-- Two trees have the same directories, and perhaps other files. -/
structure SameDirectories (t t' : FileTree) : Prop where
  size : t'.directories.size = t.directories.size
  outer : ∀ number, (t'.directory number).outer = (t.directory number).outer
  subdirectories : ∀ number name inner,
    t'.entry? number name = some (.directory inner) ↔ t.entry? number name = some (.directory inner)

namespace SameDirectories

/-- What is changed under a name is no directory, neither before nor afterwards. -/
theorem modify {node : Option Node} {change : Dictionary Node → Dictionary Node}
    (only : ChangesOnly name node change)
    (no_directory : ∀ inner, t.entry? number name ≠ some (.directory inner))
    (none_made : ∀ inner, node ≠ some (.directory inner)) :
    SameDirectories t (t.modify number change) where
  size := size_modify t number change
  outer other := outer_modify t number other change
  subdirectories other key inner := by
    rw [entry?_modify only]
    split
    · next here =>
      obtain ⟨⟨rfl, -⟩, rfl⟩ := here
      simp [no_directory inner, none_made inner]
    · rfl

theorem put {content : ByteArray} (no_directory : ∀ inner, t.entry? number name ≠
    some (.directory inner)) : SameDirectories t (t.put number name (.file content)) :=
  modify (changesOnly_insert name _) no_directory (by simp)

theorem remove (no_directory : ∀ inner, t.entry? number name ≠ some (.directory inner)) :
    SameDirectories t (t.remove number name) :=
  modify (changesOnly_erase name) no_directory (by simp)

variable (same : SameDirectories t t')
include same

theorem keeps : KeepsDirectories t t' where
  size := Nat.le_of_eq same.size.symm
  outer number _ := same.outer number
  subdirectories number name inner := (same.subdirectories number name inner).2

/-- Where names lead does not depend on the files. -/
theorem directoryOf {names : List String} (found : t.directoryOf names = .ok number) :
    t'.directoryOf names = .ok number :=
  same.keeps.directoryOf found

theorem reaches (reaches : t.Reaches dir name number) : t'.Reaches dir name number :=
  same.keeps.reaches reaches

end SameDirectories

theorem isDirectory_of_found {path : String} (checked : Path.check path = .ok ())
    (found : t.directoryOf (Path.names path) = .ok number) : t.isDirectory path = true := by
  obtain ⟨place, walked, there⟩ := exists_walk_of_directoryOf found
  obtain ⟨node, -⟩ := directoryAt_eq_ok_iff.1 there
  rw [isDirectory, find, locate, checked, walked]
  by_cases slash : Path.endsInSlash path
  · simp [bind, Except.bind, pure, Except.pure, slash, there, node?]
  · simp [bind, Except.bind, pure, Except.pure, slash, node]

/-- A directory that is there is not made again. -/
theorem makeDirectory_of_found {path : String} (checked : Path.check path = .ok ())
    (found : t.directoryOf (Path.names path) = .ok number) :
    t.makeDirectory path = .error .alreadyExists := by
  rw [makeDirectory, locateEntry?, checked]
  cases reversed : (Path.names path).reverse with
  | nil => rfl
  | cons name outer =>
    obtain ⟨place, walked, there⟩ := exists_walk_of_directoryOf found
    rw [← List.reverse_eq_iff.2 reversed.symm, List.reverse_cons, walk_append] at walked
    obtain ⟨around, front, stepped⟩ := bind_eq_ok_iff.1 walked
    obtain ⟨dir, inside, stepped⟩ := bind_eq_ok_iff.1 stepped
    by_cases relative : isRelativeName name
    · simp [bind, Except.bind, pure, Except.pure, front, inside, relative]
    · have plain : name ≠ "." ∧ name ≠ ".." := by simpa [isRelativeName] using relative
      rw [if_neg plain.1, if_neg plain.2] at stepped
      obtain ⟨_, fits, stepped⟩ := bind_eq_ok_iff.1 stepped
      obtain rfl := Except.ok.inj stepped
      have node : t.entry? dir name = some (.directory number) :=
        (directoryAt_eq_ok_iff.1 there).1
      simp [bind, Except.bind, pure, Except.pure, front, inside, relative, fits, node]

/-- Nothing is made if the directory is there. -/
theorem makeDirectories_of_found {path : String} (checked : Path.check path = .ok ())
    (found : t.directoryOf (Path.names path) = .ok number) :
    (FileSystem.makeDirectories path : StateM FileTree _) t = (.ok (), t) := by
  have some_path := ((Path.check_eq_ok_iff path).1 checked).2.1
  have made : (FileSystem.makeDirectory path : StateM FileTree _) t =
      (.error .alreadyExists, t) := by
    change updating (·.makeDirectory path) t = _
    rw [updating, makeDirectory_of_found checked found]
  have there : (FileSystem.unlessDirectory path .alreadyExists : StateM FileTree _) t =
      (.ok (), t) := by
    change (if t.isDirectory path then _ else _ : StateM FileTree _) t = _
    rw [isDirectory_of_found checked found]
    rfl
  rw [FileSystem.makeDirectories, if_neg some_path, FileSystem.makeFirst]
  change StateT.bind (FileSystem.makeDirectory path : StateM FileTree _) _ t = _
  rw [StateT.bind, made]
  exact there

end StorageLayout.FileTree
