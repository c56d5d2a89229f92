import StorageLayout.Proofs.Fingerprint.Exhaustion
import StorageLayout.Proofs.TypeDefinition.Labelling

/-!
# Each composite is expanded at one address

The types of a display that refer to something are those that its walk goes below for the first
time. The walk lists their keys in the order of their first expansion, without repetition, so that
each of these keys labels one of them: a display has as many as its key reaches.
-/
namespace StorageLayout.TypeScope

variable {s : TypeScope} {t : DisplayType} {key : String}

/-- Each key of a set has one address, and no other key has any. -/
structure OneEach (labelled : List Nat → String → Prop) (keys : Set String) : Prop where
  exists_iff : ∀ target, (∃ address, labelled address target) ↔ target ∈ keys
  unique : ∀ target address other, labelled address target → labelled other target →
    address = other

theorem oneEach_empty {labelled : List Nat → String → Prop}
    (none : ∀ address target, ¬ labelled address target) : OneEach labelled ∅ where
  exists_iff target := iff_of_false (fun ⟨address, found⟩ => none address target found) nofun
  unique target address _ found := absurd found (none address target)

/-- What is shown for a reference has, at an address, a type that refers to something and has the
target as its key. -/
def BranchesIn (s : TypeScope) (key : String) (type : TypeRef) (address : List Nat)
    (target : String) : Prop :=
  ∃ name node, type = .expanded name node ∧ address ∈ (DisplayType.mk name node).branchings ∧
    s.keyAt key address = target

/-- The same for what is shown for a list of references, where the address starts with a position in
the list. -/
def Branches (s : TypeScope) (references : List String) (types : List TypeRef) :
    List Nat → String → Prop
  | [], _ => False
  | number :: rest, target => ∃ reference type, references[number]? = some reference ∧
      types[number]? = some type ∧ s.BranchesIn reference type rest target

section Branches

variable {references : List String} {type : TypeRef} {types : List TypeRef} {keys : Set String}

theorem branches_cons_zero_iff {rest : List Nat} {target : String} :
    s.Branches (key :: references) (type :: types) (0 :: rest) target ↔
      s.BranchesIn key type rest target := by
  simp [Branches]

theorem branches_cons_succ_iff {number : Nat} {rest : List Nat} {target : String} :
    s.Branches (key :: references) (type :: types) ((number + 1) :: rest) target ↔
      s.Branches references types (number :: rest) target :=
  Iff.rfl

/-- The addresses below two references are apart, as their first numbers are. -/
theorem OneEach.cons {others : Set String} (first : OneEach (s.BranchesIn key type) keys)
    (later : OneEach (s.Branches references types) others)
    (apart : ∀ target ∈ keys, target ∉ others) :
    OneEach (s.Branches (key :: references) (type :: types)) (keys ∪ others) where
  exists_iff target := by
    rw [Set.mem_union, ← first.exists_iff, ← later.exists_iff]
    constructor
    · rintro ⟨_ | ⟨_ | number, rest⟩, found⟩
      · exact found.elim
      · exact Or.inl ⟨rest, branches_cons_zero_iff.1 found⟩
      · exact Or.inr ⟨number :: rest, branches_cons_succ_iff.1 found⟩
    · rintro (⟨rest, found⟩ | ⟨_ | ⟨number, rest⟩, found⟩)
      · exact ⟨0 :: rest, branches_cons_zero_iff.2 found⟩
      · exact found.elim
      · exact ⟨(number + 1) :: rest, branches_cons_succ_iff.2 found⟩
  unique target address other found found' := by
    have not_both {rest later_rest : List Nat} (here : s.BranchesIn key type rest target)
        (there : s.Branches references types later_rest target) : False :=
      apart target ((first.exists_iff target).1 ⟨_, here⟩) ((later.exists_iff target).1 ⟨_, there⟩)
    match address, other with
    | [], _ => exact found.elim
    | _ :: _, [] => exact found'.elim
    | 0 :: rest, 0 :: rest' =>
      rw [branches_cons_zero_iff] at found found'
      rw [first.unique target rest rest' found found']
    | 0 :: _, (number' + 1) :: rest' =>
      exact (not_both (branches_cons_zero_iff.1 found) (branches_cons_succ_iff.1 found')).elim
    | (number + 1) :: rest, 0 :: _ =>
      exact (not_both (branches_cons_zero_iff.1 found') (branches_cons_succ_iff.1 found)).elim
    | (number + 1) :: rest, (number' + 1) :: rest' =>
      rw [branches_cons_succ_iff] at found found'
      have same := later.unique target (number :: rest) (number' :: rest') found found'
      obtain ⟨rfl, rfl⟩ := List.cons.inj same
      rfl

/-- A type branches at the empty address if it refers to something. -/
theorem branchesIn_nil_iff {definition : TypeDefinition} {name : String} {node : TypeNode TypeRef}
    (skeleton : node.skeleton = definition.node.skeleton) {target : String} :
    s.BranchesIn key (.expanded name node) [] target ↔
      definition.isComposite = true ∧ key = target := by
  rw [← displayReferences_ne_nil_iff skeleton]
  constructor
  · rintro ⟨name, node, same, ⟨shown, found, branching⟩, labelled⟩
    obtain ⟨rfl, rfl⟩ := TypeRef.expanded.inj same
    obtain rfl := Option.some.inj found
    exact ⟨branching, labelled⟩
  · rintro ⟨branching, labelled⟩
    exact ⟨name, node, rfl, ⟨_, rfl, branching⟩, labelled⟩

/-- At another address it branches where what is shown for its references does. -/
theorem branchesIn_cons_iff {definition : TypeDefinition} {name : String} {node : TypeNode TypeRef}
    (entered : s.find? key = some definition)
    (skeleton : node.skeleton = definition.node.skeleton) {number : Nat} {rest : List Nat}
    {target : String} :
    s.BranchesIn key (.expanded name node) (number :: rest) target ↔
      s.Branches definition.node.displayReferences node.displayReferences (number :: rest)
        target := by
  have lengths := TypeNode.length_displayReferences_of_skeleton_eq skeleton
  constructor
  · rintro ⟨name, node, same, ⟨shown, found, branching⟩, labelled⟩
    obtain ⟨rfl, rfl⟩ := TypeRef.expanded.inj same
    rw [DisplayType.nodeAt?] at found
    split at found
    · next label below listed =>
      obtain ⟨inside, -⟩ := List.getElem?_eq_some_iff.1 listed
      rw [lengths] at inside
      have position := List.getElem?_eq_getElem inside
      refine ⟨_, _, position, listed, label, below, rfl, ⟨shown, found, branching⟩, ?_⟩
      simpa [keyAt, entered, position] using labelled
    · cases found
  · rintro ⟨reference, _, position, listed, label, below, rfl, ⟨shown, found, branching⟩, labelled⟩
    refine ⟨name, node, rfl, ⟨shown, ?_, branching⟩, ?_⟩
    · simpa [DisplayType.nodeAt?, listed] using found
    · simpa [keyAt, entered, position] using labelled

theorem not_branchesIn_of_simple {definition : TypeDefinition} {name : String}
    {node : TypeNode TypeRef} (entered : s.find? key = some definition)
    (simple : definition.isComposite = false)
    (skeleton : node.skeleton = definition.node.skeleton) (address : List Nat) (target : String) :
    ¬ s.BranchesIn key (.expanded name node) address target := by
  cases address with
  | nil =>
    rw [branchesIn_nil_iff skeleton, simple]
    simp
  | cons number rest =>
    rw [branchesIn_cons_iff entered skeleton, displayReferences_of_simple simple rfl]
    simp [Branches]

/-- The type itself has the empty address, and what is below it has longer ones. -/
theorem OneEach.branchesIn {definition : TypeDefinition} {name : String} {node : TypeNode TypeRef}
    (entered : s.find? key = some definition) (composite : definition.isComposite = true)
    (skeleton : node.skeleton = definition.node.skeleton)
    (below : OneEach (s.Branches definition.node.displayReferences node.displayReferences) keys)
    (fresh : key ∉ keys) :
    OneEach (s.BranchesIn key (.expanded name node)) (insert key keys) where
  exists_iff target := by
    rw [Set.mem_insert_iff, ← below.exists_iff]
    constructor
    · rintro ⟨_ | ⟨number, rest⟩, found⟩
      · exact Or.inl ((branchesIn_nil_iff skeleton).1 found).2.symm
      · exact Or.inr ⟨_, (branchesIn_cons_iff entered skeleton).1 found⟩
    · rintro (rfl | ⟨_ | ⟨number, rest⟩, found⟩)
      · exact ⟨[], (branchesIn_nil_iff skeleton).2 ⟨composite, rfl⟩⟩
      · exact found.elim
      · exact ⟨_, (branchesIn_cons_iff entered skeleton).2 found⟩
  unique target address other found found' := by
    have not_both {number : Nat} {rest : List Nat}
        (here : s.BranchesIn key (.expanded name node) [] target)
        (there : s.BranchesIn key (.expanded name node) (number :: rest) target) : False := by
      obtain ⟨-, rfl⟩ := (branchesIn_nil_iff skeleton).1 here
      exact fresh ((below.exists_iff key).1 ⟨_, (branchesIn_cons_iff entered skeleton).1 there⟩)
    match address, other with
    | [], [] => rfl
    | [], _ :: _ => exact (not_both found found').elim
    | _ :: _, [] => exact (not_both found' found).elim
    | _ :: _, _ :: _ =>
      rw [branchesIn_cons_iff entered skeleton] at found found'
      exact below.unique target _ _ found found'

/-- A first reference for which nothing that refers to something is expanded adds no address. -/
theorem OneEach.cons_of_not (none : ∀ address target, ¬ s.BranchesIn key type address target)
    (later : OneEach (s.Branches references types) keys) :
    OneEach (s.Branches (key :: references) (type :: types)) keys := by
  simpa using (oneEach_empty none).cons later fun _ listed => listed.elim

theorem not_branchesIn_of_ne (leaf : ∀ name node, type ≠ .expanded name node)
    (address : List Nat) (target : String) : ¬ s.BranchesIn key type address target :=
  fun ⟨name, node, same, _⟩ => leaf name node same

/-- What is shown for references branches once for each key that is expanded first for them. -/
theorem Expands.oneEach {path before after : List String}
    (expands : s.Expands path before references types after) :
    OneEach (s.Branches references types) {target | target ∈ after ∧ target ∉ before} := by
  induction expands with
  | nil =>
    simp only [and_not_self, Set.ofPred_false]
    exact oneEach_empty fun address target => by cases address <;> simp [Branches]
  | recursive found others ih => exact ih.cons_of_not (not_branchesIn_of_ne nofun)
  | unresolved fresh absent others ih => exact ih.cons_of_not (not_branchesIn_of_ne nofun)
  | simple fresh entered simple labelled skeleton others ih =>
    exact ih.cons_of_not (not_branchesIn_of_simple entered simple skeleton)
  | repeated fresh entered composite expanded others ih =>
    exact ih.cons_of_not (not_branchesIn_of_ne nofun)
  | @first path before between rest after types key label definition node fresh entered composite
      new labelled skeleton below others ih_below ih =>
    -- The walk lists what it first expands below the reference, and what it expands later after it.
    have below_extends := below.isPrefix.subset
    have others_extend := others.isPrefix.subset
    have head : OneEach (s.BranchesIn key (.expanded label node))
        (insert key {target | target ∈ between ∧ target ∉ before ++ [key]}) :=
      ih_below.branchesIn entered composite skeleton (by simp)
    have first_in_between : insert key {target | target ∈ between ∧ target ∉ before ++ [key]} =
        {target | target ∈ between ∧ target ∉ before} := by
      ext target
      have listed : key ∈ between := below_extends (by simp)
      by_cases same : target = key
      · simp [same, listed, new]
      · simp [same]
    rw [first_in_between] at head
    have all : {target | target ∈ between ∧ target ∉ before} ∪
          {target | target ∈ after ∧ target ∉ between} =
        {target | target ∈ after ∧ target ∉ before} := by
      ext target
      have kept : target ∈ before → target ∈ between := fun listed =>
        below_extends (List.mem_append_left _ listed)
      have kept' : target ∈ between → target ∈ after := fun listed => others_extend listed
      simp only [Set.mem_union, Set.mem_ofPred_eq]
      tauto
    rw [← all]
    exact head.cons ih fun target here there => there.2 here.1

end Branches

section Displays

variable {order : List String}

/-- The types that refer to something have different keys. -/
theorem Displays.injOn_keyAt (displays : s.Displays key t order) :
    Set.InjOn (s.keyAt key) t.branchings := by
  obtain ⟨definition, entered, -, skeleton, expands⟩ := displays
  have branches {address : List Nat} (branching : address ∈ t.branchings) :
      s.BranchesIn key (.expanded t.label t.node) address (s.keyAt key address) :=
    ⟨t.label, t.node, rfl, branching, rfl⟩
  intro address branching other branching' same
  cases composite : definition.isComposite with
  | false =>
    exact absurd (branches branching) (not_branchesIn_of_simple entered composite skeleton _ _)
  | true =>
    have one_each : OneEach (s.BranchesIn key (.expanded t.label t.node)) _ :=
      expands.oneEach.branchesIn entered composite skeleton (by simp)
    have found := branches branching'
    rw [← same] at found
    exact one_each.unique _ address other (branches branching) found

/-- Every type that is expanded first for a reference has an address. -/
theorem Displays.exists_nodeAt (displays : s.Displays key t order) {target : String}
    (listed : target ∈ order) : ∃ address shown, t.nodeAt? address = some shown ∧
      s.keyAt key address = target := by
  obtain ⟨definition, entered, -, skeleton, expands⟩ := displays
  by_cases root : target = key
  · exact ⟨[], t, rfl, root.symm⟩
  · obtain ⟨_ | ⟨number, rest⟩, found⟩ :=
      (expands.oneEach.exists_iff target).2 ⟨listed, by simpa using root⟩
    · exact found.elim
    · have branching : s.BranchesIn key (.expanded t.label t.node) (number :: rest) target :=
        (branchesIn_cons_iff entered skeleton).2 found
      obtain ⟨name, node, same, ⟨shown, found, -⟩, labelled⟩ := branching
      obtain ⟨rfl, rfl⟩ := TypeRef.expanded.inj same
      exact ⟨number :: rest, shown, found, labelled⟩

theorem Displays.labels (displays : s.Displays key t order) : s.Labels t key (s.keyAt key) := by
  have ⟨definition, entered, labelled, skeleton, expands⟩ := displays
  have root : s.Placed order [] key t := {
    distinct := List.nodup_singleton key
    entries := by simp [entered]
    shows := ⟨definition, entered, labelled, skeleton, expands.appears (List.Subset.refl order)⟩ }
  exact root.labels fun other listed => displays.exists_nodeAt listed

end Displays

/-- A display shows, below the entry of its key, the entries of all keys that are reached from it,
and all their references. Each entry that refers to something is expanded at one address. -/
theorem display_expands_each_composite_once {s : TypeScope} {key : String} {t : DisplayType}
    (resolved : s.resolve key = .ok t) :
    ∃ label : List Nat → String, s.Labels t key label ∧
      Set.BijOn label t.branchings (s.compositesFrom key) ∧ t.branchings.Finite ∧
      t.branchings.ncard = (s.compositesFrom key).ncard := by
  obtain ⟨order, displays⟩ := displays_of_resolve resolved
  have labels := displays.labels
  have different := displays.injOn_keyAt
  have finite : (s.compositesFrom key).Finite :=
    (s.types.finite_reachable key).subset fun _ reached => reached.1
  have all := labels.image_branchings
  refine ⟨s.keyAt key, labels, ⟨?_, different, ?_⟩, ?_, ?_⟩
  · exact Set.mapsTo_iff_image_subset.2 all.subset
  · exact all.superset
  · rw [← all] at finite
    exact finite.of_finite_image different
  · rw [← all, different.ncard_image]

/-- Folders whose subfolders and recent folders are listed, with an owner of a type that has no
entry. -/
def folderTypes : TypeScope where
  contract := "Archive"
  types := {
    entries := [
      ("folder", ⟨.inplace, "struct Folder", "96", none, some [⟨"children", 0, "0", "list", none⟩,
        ⟨"recent", 0, "1", "list", none⟩, ⟨"owner", 0, "2", "user", none⟩], none, none⟩),
      ("list", ⟨.dynamicArray, "struct Folder[]", "32", none, none, none, some "folder"⟩)]
    keys_distinct := by decide }

/-- What is shown for a folder. -/
def shownFolder : DisplayType where
  label := "struct Folder"
  node := ⟨.inplace, "96", none, some [
    ⟨"children", 0, "0", .expanded "struct Folder[]"
      ⟨.dynamicArray, "32", none, none, none, some (.recursive 2)⟩⟩,
    ⟨"recent", 0, "1", .repeated "list"⟩, ⟨"owner", 0, "2", .unresolved "user"⟩], none, none⟩

theorem displays_folder : folderTypes.Displays "folder" shownFolder ["folder", "list"] := by
  refine ⟨_, rfl, rfl, rfl, ?_⟩
  refine .first (by decide) rfl rfl (by decide) rfl rfl (.recursive (by decide) .nil) ?_
  exact .repeated (by decide) rfl rfl (by decide) (.unresolved (by decide) rfl .nil)

theorem resolve_folder : folderTypes.resolve "folder" = .ok shownFolder := by
  have low : (folderTypes.plainDigest id "folder" []).height ≤ maxTypeDepth :=
    (height_plainDigest_le folderTypes id "folder" []).trans (by decide)
  obtain ⟨shown, order, resolved, displays⟩ := exists_displays id rfl low
  rw [resolved, (displays.unique displays_folder).1]

/-- Folders and lists of folders are expanded once, the second list and the owner are not. -/
theorem folder_is_expanded_once :
    folderTypes.resolve "folder" = .ok shownFolder ∧
    ∃ label : List Nat → String, folderTypes.Labels shownFolder "folder" label ∧
      Set.BijOn label shownFolder.branchings (folderTypes.compositesFrom "folder") ∧
      shownFolder.branchings.Finite ∧
      shownFolder.branchings.ncard = (folderTypes.compositesFrom "folder").ncard :=
  ⟨resolve_folder, display_expands_each_composite_once resolve_folder⟩

end StorageLayout.TypeScope
