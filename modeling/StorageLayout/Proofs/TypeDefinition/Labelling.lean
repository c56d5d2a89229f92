import Mathlib.Data.List.Infix
import StorageLayout.Proofs.TypeDefinition.Room

/-!
# Displays are labelled by keys

The expanded types in a display are found at addresses: lists of reference numbers that lead to them
from the root. Following the same numbers through the dictionary gives each of them a key, whose
entry it shows. References to what has no entry, to an enclosing type, and to a type that is
expanded elsewhere are told from expansions, and by them a display leads to every type that its key
reaches.
-/
namespace StorageLayout

open Relation (ReflTransGen)

theorem TypeNode.length_displayReferences_of_skeleton_eq {ρ σ : Type} {n : TypeNode ρ}
    {m : TypeNode σ} (skeletons : n.skeleton = m.skeleton) :
    n.displayReferences.length = m.displayReferences.length := by
  have permuted {ρ : Type} (k : TypeNode ρ) : k.displayReferences.length = k.references.length := by
    simp only [TypeNode.displayReferences, TypeNode.references, List.length_append]
    omega
  rw [permuted, permuted, TypeNode.length_references_of_skeleton_eq skeletons]

namespace DisplayType

/-- The expanded type at an address: the numbers of the references, in the order of display, that
lead to it from the root. -/
def nodeAt? (t : DisplayType) : List Nat → Option DisplayType
  | [] => some t
  | number :: rest =>
    match t.node.displayReferences[number]? with
    | some (.expanded label node) => nodeAt? ⟨label, node⟩ rest
    | _ => none

/-- The addresses of the expanded types that refer to something. -/
def branchings (t : DisplayType) : Set (List Nat) :=
  {address | ∃ shown, t.nodeAt? address = some shown ∧ shown.node.displayReferences ≠ []}

/-- An address leads on from where its first part leads. -/
theorem nodeAt?_append (t : DisplayType) (first second : List Nat) :
    t.nodeAt? (first ++ second) = (t.nodeAt? first).bind fun shown => shown.nodeAt? second := by
  fun_induction nodeAt? t first with
  | case1 t => rfl
  | case2 t number rest label node found ih =>
    rw [List.cons_append, nodeAt?, found]
    exact ih
  | case3 t number rest other =>
    rw [List.cons_append, nodeAt?]
    split
    · next label node found => exact (other label node found).elim
    · rfl

/-- An address with one more number leads to a type that is expanded for a reference. -/
theorem nodeAt?_concat_iff {t shown : DisplayType} {address : List Nat} {number : Nat} :
    t.nodeAt? (address ++ [number]) = some shown ↔ ∃ parent, t.nodeAt? address = some parent ∧
      parent.node.displayReferences[number]? = some (.expanded shown.label shown.node) := by
  rw [nodeAt?_append, Option.bind_eq_some_iff]
  refine exists_congr fun parent => and_congr_right fun _ => ?_
  rw [nodeAt?]
  constructor
  · intro found
    split at found
    · next label node listed =>
      obtain rfl := Option.some.inj found
      exact listed
    · exact nomatch found
  · intro listed
    rw [listed]
    rfl

/-- Whatever encloses an expanded type is an expanded type. -/
theorem exists_nodeAt_of_append {t shown : DisplayType} {outer inner : List Nat}
    (found : t.nodeAt? (outer ++ inner) = some shown) : ∃ above, t.nodeAt? outer = some above := by
  rw [nodeAt?_append] at found
  obtain ⟨above, enclosing, -⟩ := Option.bind_eq_some_iff.1 found
  exact ⟨above, enclosing⟩

end DisplayType

namespace TypeScope

/-- How a reference of the type at an address appears in a display whose types are labelled. -/
structure AppearsAs (s : TypeScope) (t : DisplayType) (label : List Nat → String)
    (address : List Nat) (number : Nat) (reference : String) (type : TypeRef) : Prop where
  /-- By the bare key if it has no entry, and only then. -/
  unresolved : ∀ key, type = .unresolved key ↔ key = reference ∧ s.find? reference = none
  /-- By a number of levels if so many levels up a type has this label, and only then; one level up
  is the type that refers. -/
  recursive : ∀ levels, type = .recursive levels ↔
    ∃ outer inner, outer ++ inner = address ∧ label outer = reference ∧ levels = inner.length + 1
  /-- By the key of an entry only if that refers to something and labels an expanded type. -/
  repeated : ∀ key, type = .repeated key → key = reference ∧
    (∃ child, s.find? reference = some child ∧ child.isComposite) ∧
    ∃ other shown, t.nodeAt? other = some shown ∧ label other = reference
  /-- Otherwise by an expanded type with this label. -/
  expanded : ∀ name node, type = .expanded name node → label (address ++ [number]) = reference

/-- The expanded types of a display show the entries of the keys by which they are labelled, and all
references of these entries. -/
structure Labels (s : TypeScope) (t : DisplayType) (key : String) (label : List Nat → String) :
    Prop where
  root : label [] = key
  shows : ∀ address shown, t.nodeAt? address = some shown → ∃ definition,
    s.find? (label address) = some definition ∧ shown.label = definition.label ∧
    shown.node.skeleton = definition.node.skeleton ∧
    ∀ number reference, definition.node.displayReferences[number]? = some reference →
      ∃ type, shown.node.displayReferences[number]? = some type ∧
        s.AppearsAs t label address number reference type

/-- The keys that a key reaches whose entries refer to something. -/
def compositesFrom (s : TypeScope) (key : String) : Set String :=
  {target | target ∈ s.types.reachable key ∧
    ∃ definition, s.find? target = some definition ∧ definition.isComposite}

variable {s : TypeScope} {t shown : DisplayType} {key : String} {label : List Nat → String}

theorem displayReferences_ne_nil_iff {definition : TypeDefinition} {node : TypeNode TypeRef}
    (skeleton : node.skeleton = definition.node.skeleton) :
    node.displayReferences ≠ [] ↔ definition.isComposite = true := by
  have lengths := TypeNode.length_references_of_skeleton_eq skeleton
  rw [isComposite_iff, ← List.length_pos_iff_exists_mem, ← lengths, List.length_pos_iff_exists_mem,
    ne_eq, List.eq_nil_iff_forall_not_mem]
  simp only [TypeNode.mem_displayReferences_iff, not_forall, not_not]

namespace Labels

/-- A reference to an entry leads to a type of the display that is labelled by it. -/
theorem exists_nodeAt_of_refers (labels : s.Labels t key label) {address : List Nat}
    (found : t.nodeAt? address = some shown) {target : String}
    (edge : s.types.Refers (label address) target) :
    ∃ other below, t.nodeAt? other = some below ∧ label other = target := by
  obtain ⟨definition, entered, listed, entry⟩ := edge
  obtain ⟨definition', entered', -, -, references⟩ := labels.shows address shown found
  obtain rfl := Option.some.inj (entered.symm.trans entered')
  rw [← TypeDictionary.mem_references_node_iff, ← TypeNode.mem_displayReferences_iff] at listed
  obtain ⟨number, position⟩ := List.mem_iff_getElem?.1 listed
  obtain ⟨type, listed', appears⟩ := references number target position
  cases type with
  | expanded name node =>
    exact ⟨_, ⟨name, node⟩, DisplayType.nodeAt?_concat_iff.2 ⟨shown, found, listed'⟩,
      appears.expanded name node rfl⟩
  | unresolved other =>
    obtain ⟨-, absent⟩ := (appears.unresolved other).1 rfl
    simp [Dictionary.contains, show s.types.find? target = none from absent] at entry
  | recursive levels =>
    obtain ⟨outer, inner, rfl, same, -⟩ := (appears.recursive levels).1 rfl
    obtain ⟨above, enclosing⟩ := DisplayType.exists_nodeAt_of_append found
    exact ⟨outer, above, enclosing, same⟩
  | repeated other => exact (appears.repeated other rfl).2.2

/-- Every entry that is reached labels a type of the display. -/
theorem exists_nodeAt_of_reaches (labels : s.Labels t key label) {target : String}
    (reaches : ReflTransGen s.types.Refers key target) :
    ∃ address shown, t.nodeAt? address = some shown ∧ label address = target := by
  induction reaches with
  | refl => exact ⟨[], t, rfl, labels.root⟩
  | tail _ edge ih =>
    obtain ⟨address, shown, found, rfl⟩ := ih
    exact labels.exists_nodeAt_of_refers found edge

/-- Every label is reached from that of the root. -/
theorem reaches (labels : s.Labels t key label) {address : List Nat}
    (found : t.nodeAt? address = some shown) :
    ReflTransGen s.types.Refers key (label address) := by
  -- The type that refers to this one is at the address without its last number.
  induction address using List.reverseRecOn generalizing shown with
  | nil => rw [labels.root]
  | append_singleton address number ih =>
    obtain ⟨parent, found', listed⟩ := DisplayType.nodeAt?_concat_iff.1 found
    obtain ⟨definition, entered, -, skeleton, references⟩ := labels.shows address parent found'
    obtain ⟨inside, -⟩ := List.getElem?_eq_some_iff.1 listed
    rw [TypeNode.length_displayReferences_of_skeleton_eq skeleton] at inside
    have position := List.getElem?_eq_getElem inside
    obtain ⟨type, listed', appears⟩ := references number _ position
    obtain rfl := Option.some.inj (listed.symm.trans listed')
    rw [appears.expanded _ _ rfl]
    refine (ih found').tail ⟨definition, entered, ?_, ?_⟩
    · rw [← TypeDictionary.mem_references_node_iff, ← TypeNode.mem_displayReferences_iff]
      exact List.getElem_mem inside
    · by_contra absent
      exact nomatch (appears.unresolved _).2 ⟨rfl, Option.not_isSome_iff_eq_none.1 absent⟩

/-- The types that refer to something are labelled by all keys of such entries that are reached. -/
theorem image_branchings (labels : s.Labels t key label) :
    label '' t.branchings = s.compositesFrom key := by
  ext target
  constructor
  · rintro ⟨address, ⟨shown, found, branching⟩, rfl⟩
    obtain ⟨definition, entered, -, skeleton, -⟩ := labels.shows address shown found
    exact ⟨⟨Option.isSome_iff_exists.2 ⟨definition, entered⟩, labels.reaches found⟩, definition,
      entered, (displayReferences_ne_nil_iff skeleton).1 branching⟩
  · rintro ⟨⟨-, reached⟩, definition, entered, composite⟩
    obtain ⟨address, shown, found, rfl⟩ := labels.exists_nodeAt_of_reaches reached
    obtain ⟨definition', entered', -, skeleton, -⟩ := labels.shows address shown found
    obtain rfl := Option.some.inj (entered.symm.trans entered')
    exact ⟨address, ⟨shown, found, (displayReferences_ne_nil_iff skeleton).2 composite⟩, rfl⟩

end Labels

/-- What a reference that an expansion goes through is shown as, when all types that are expanded in
the end are known. -/
inductive Appears (s : TypeScope) (path known : List String) (reference : String) :
    TypeRef → Prop where
  | recursive {above : Nat} (found : path.idxOf? reference = some above) :
      Appears s path known reference (.recursive (above + 1))
  | unresolved (fresh : reference ∉ path) (absent : s.find? reference = none) :
      Appears s path known reference (.unresolved reference)
  | repeated {definition : TypeDefinition} (fresh : reference ∉ path)
      (entered : s.find? reference = some definition) (composite : definition.isComposite = true)
      (expanded : reference ∈ known) : Appears s path known reference (.repeated reference)
  | expanded {definition : TypeDefinition} {node : TypeNode TypeRef} {before after : List String}
      (fresh : reference ∉ path) (entered : s.find? reference = some definition)
      (skeleton : node.skeleton = definition.node.skeleton)
      (below : s.Expands (reference :: path) before definition.node.displayReferences
        node.displayReferences after) (within : after ⊆ known) :
      Appears s path known reference (.expanded definition.label node)

/-- References are shown in order, each as its kind demands. -/
theorem Expands.appears {path before references after known : List String} {types : List TypeRef}
    (expands : s.Expands path before references types after) (within : after ⊆ known) :
    List.Forall₂ (s.Appears path known) references types := by
  induction expands with
  | nil => exact .nil
  | recursive found others ih => exact .cons (.recursive found) (ih within)
  | unresolved fresh absent others ih => exact .cons (.unresolved fresh absent) (ih within)
  | @simple path before rest after types key label definition node fresh entered simple labelled
      skeleton others ih =>
    subst labelled
    -- A type without references is expanded like the others, but is not listed.
    have nothing : s.Expands (key :: path) before definition.node.displayReferences
        node.displayReferences before := by
      rw [displayReferences_of_simple simple rfl, displayReferences_of_simple simple skeleton]
      exact .nil
    exact .cons (.expanded fresh entered skeleton nothing
      (List.Subset.trans others.isPrefix.subset within)) (ih within)
  | repeated fresh entered composite expanded others ih =>
    exact .cons (.repeated fresh entered composite (within (others.isPrefix.subset expanded)))
      (ih within)
  | first fresh entered composite new labelled skeleton below others _ ih =>
    subst labelled
    exact .cons (.expanded fresh entered skeleton below
      (List.Subset.trans others.isPrefix.subset within)) (ih within)

/-- The key at an address: the same reference numbers are followed through the dictionary. -/
def keyAt (s : TypeScope) (key : String) : List Nat → String
  | [] => key
  | number :: rest =>
    let references := (s.find? key).elim [] fun definition => definition.node.displayReferences
    s.keyAt (references[number]?.getD "") rest

theorem keyAt_append (s : TypeScope) (key : String) (first second : List Nat) :
    s.keyAt key (first ++ second) = s.keyAt (s.keyAt key first) second := by
  induction first generalizing key with
  | nil => rfl
  | cons number rest ih => exact ih _

/-- The keys of a type in a display and of those that enclose it, up to the root. -/
def lineage (s : TypeScope) (key : String) (address : List Nat) : List String :=
  (address.inits.map (s.keyAt key)).reverse

theorem lineage_concat (s : TypeScope) (key : String) (address : List Nat) (number : Nat) :
    s.lineage key (address ++ [number]) =
      s.keyAt key (address ++ [number]) :: s.lineage key address := by
  simp [lineage, List.inits_append]

/-- The lineage is counted by what has to be taken from the end of the address. -/
theorem getElem?_lineage {address : List Nat} {above : Nat} {reference : String} :
    (s.lineage key address)[above]? = some reference ↔
      ∃ outer inner, outer ++ inner = address ∧ s.keyAt key outer = reference ∧
        above = inner.length := by
  induction address using List.reverseRecOn generalizing above with
  | nil =>
    cases above with
    | zero => simp [lineage]
    | succ above => simp [lineage]
  | append_singleton address number ih =>
    rw [lineage_concat]
    cases above with
    | zero =>
      rw [List.getElem?_cons_zero, Option.some.injEq]
      constructor
      · intro same
        exact ⟨address ++ [number], [], List.append_nil _, same, rfl⟩
      · rintro ⟨outer, inner, split, same, level⟩
        obtain rfl := List.eq_nil_of_length_eq_zero level.symm
        rw [← split, List.append_nil]
        exact same
    | succ above =>
      rw [List.getElem?_cons_succ, ih]
      constructor
      · rintro ⟨outer, inner, rfl, same, rfl⟩
        exact ⟨outer, inner ++ [number], (List.append_assoc _ _ _).symm, same, by simp⟩
      · rintro ⟨outer, inner, split, same, level⟩
        rcases List.eq_nil_or_concat' inner with rfl | ⟨inner, last, rfl⟩
        · exact nomatch level
        · rw [← List.append_assoc] at split
          obtain ⟨split, -⟩ := List.append_inj' split rfl
          exact ⟨outer, inner, split, same, by simpa using level⟩

/-- A type in a display is expanded below a path, and so are the types in it. -/
structure Placed (s : TypeScope) (known path : List String) (key : String) (t : DisplayType) :
    Prop where
  distinct : (key :: path).Nodup
  entries : ∀ visited ∈ key :: path, s.find? visited ≠ none
  shows : ∃ definition, s.find? key = some definition ∧ t.label = definition.label ∧
    t.node.skeleton = definition.node.skeleton ∧
    List.Forall₂ (s.Appears (key :: path) known) definition.node.displayReferences
      t.node.displayReferences

section Placed

variable {known path : List String} {address : List Nat}

/-- What is placed below a path has its parts placed below the longer path. -/
theorem Placed.child (placed : s.Placed known path key t) {number : Nat} {name : String}
    {node : TypeNode TypeRef}
    (listed : t.node.displayReferences[number]? = some (.expanded name node)) :
    s.Placed known (key :: path) (s.keyAt key [number]) ⟨name, node⟩ := by
  obtain ⟨definition, entered, -, -, references⟩ := placed.shows
  obtain ⟨reference, position, appears⟩ := exists_getElem?_of_forall₂ references.flip listed
  have followed : s.keyAt key [number] = reference := by
    simp [keyAt, entered, position]
  rw [followed]
  cases appears with
  | expanded fresh entered' skeleton below within =>
    refine ⟨List.nodup_cons.2 ⟨fresh, placed.distinct⟩, ?_, _, entered', rfl, skeleton,
      below.appears within⟩
    rw [List.forall_mem_cons]
    exact ⟨by simp [entered'], placed.entries⟩

theorem Placed.nodeAt (placed : s.Placed known [] key t)
    (found : t.nodeAt? address = some shown) :
    ∃ path, s.keyAt key address :: path = s.lineage key address ∧
      s.Placed known path (s.keyAt key address) shown := by
  induction address using List.reverseRecOn generalizing shown with
  | nil =>
    obtain rfl := Option.some.inj found
    exact ⟨[], rfl, placed⟩
  | append_singleton address number ih =>
    obtain ⟨parent, found', listed⟩ := DisplayType.nodeAt?_concat_iff.1 found
    obtain ⟨path, same, placed'⟩ := ih found'
    refine ⟨s.lineage key address, (lineage_concat s key address number).symm, ?_⟩
    rw [← same, keyAt_append]
    exact placed'.child listed

/-- Keys of a lineage are found at the level at which they label an enclosing type. -/
theorem Placed.idxOf?_eq_some_iff (placed : s.Placed known path (s.keyAt key address) shown)
    (same : s.keyAt key address :: path = s.lineage key address) {reference : String}
    {above : Nat} :
    (s.lineage key address).idxOf? reference = some above ↔
      ∃ outer inner, outer ++ inner = address ∧ s.keyAt key outer = reference ∧
        above = inner.length := by
  have distinct := placed.distinct
  rw [same] at distinct
  rw [← getElem?_lineage, List.idxOf?_eq_some_iff, List.getElem?_eq_some_iff]
  constructor
  · rintro ⟨inside, found, -⟩
    exact ⟨inside, found⟩
  · rintro ⟨inside, found⟩
    refine ⟨inside, found, fun other lower again => ?_⟩
    have positions := (distinct.getElem_inj_iff).1 (again.trans found.symm)
    omega

/-- What is not found in the lineage labels no enclosing type. -/
theorem Placed.not_encloses (placed : s.Placed known path (s.keyAt key address) shown)
    (same : s.keyAt key address :: path = s.lineage key address) {reference : String}
    (fresh : reference ∉ s.keyAt key address :: path) (levels : Nat) :
    ¬ ∃ outer inner, outer ++ inner = address ∧ s.keyAt key outer = reference ∧
      levels = inner.length + 1 := by
  rintro ⟨outer, inner, split, labelled, -⟩
  have found := (placed.idxOf?_eq_some_iff same).2 ⟨outer, inner, split, labelled, rfl⟩
  rw [← same, List.idxOf?_eq_none_iff.2 fresh] at found
  exact nomatch found

/-- How a reference is shown tells its kind: by an expanded type, by a key, or by the levels up. -/
theorem Placed.appearsAs (placed : s.Placed known path (s.keyAt key address) shown)
    (same : s.keyAt key address :: path = s.lineage key address)
    (elsewhere : ∀ other ∈ known, ∃ place below, t.nodeAt? place = some below ∧
      s.keyAt key place = other)
    {number : Nat} {reference : String} {type : TypeRef}
    (followed : s.keyAt key (address ++ [number]) = reference)
    (appears : s.Appears (s.keyAt key address :: path) known reference type) :
    s.AppearsAs t (s.keyAt key) address number reference type := by
  have apart (fresh : reference ∉ s.keyAt key address :: path) := placed.not_encloses same fresh
  cases appears with
  | @recursive above found =>
    have visited := List.isSome_idxOf?.1 (Option.isSome_iff_exists.2 ⟨above, found⟩)
    have entry := placed.entries reference visited
    rw [same] at found
    obtain ⟨outer, inner, split, labelled, rfl⟩ := (placed.idxOf?_eq_some_iff same).1 found
    refine ⟨fun _ => iff_of_false nofun fun absent => entry absent.2, fun levels => ?_,
      nofun, nofun⟩
    constructor
    · intro shown
      exact ⟨outer, inner, split, labelled, (TypeRef.recursive.inj shown).symm⟩
    · rintro ⟨outer', inner', split', labelled', rfl⟩
      have again := (placed.idxOf?_eq_some_iff same).2 ⟨outer', inner', split', labelled', rfl⟩
      rw [Option.some.inj (found.symm.trans again)]
  | unresolved fresh absent =>
    refine ⟨fun other => ?_, fun levels => iff_of_false nofun (apart fresh levels), nofun, nofun⟩
    rw [TypeRef.unresolved.injEq, eq_comm]
    exact (and_iff_left absent).symm
  | repeated fresh entered composite expanded =>
    refine ⟨fun _ => iff_of_false nofun fun absent => ?_,
      fun levels => iff_of_false nofun (apart fresh levels), fun other shown => ?_, nofun⟩
    · exact nomatch entered.symm.trans absent.2
    · exact ⟨(TypeRef.repeated.inj shown).symm, ⟨_, entered, composite⟩,
        elsewhere reference expanded⟩
  | expanded fresh entered =>
    refine ⟨fun _ => iff_of_false nofun fun absent => ?_,
      fun levels => iff_of_false nofun (apart fresh levels), nofun, fun _ _ _ => followed⟩
    exact nomatch entered.symm.trans absent.2

/-- The types of a display are labelled by the keys at their addresses. -/
theorem Placed.labels (root : s.Placed known [] key t)
    (elsewhere : ∀ other ∈ known, ∃ place below, t.nodeAt? place = some below ∧
      s.keyAt key place = other) : s.Labels t key (s.keyAt key) where
  root := rfl
  shows address shown found := by
    obtain ⟨path, same, placed⟩ := root.nodeAt found
    obtain ⟨definition, entered, labelled, skeleton, references⟩ := placed.shows
    refine ⟨definition, entered, labelled, skeleton, fun number reference position => ?_⟩
    obtain ⟨type, listed, appears⟩ := exists_getElem?_of_forall₂ references position
    have followed : s.keyAt key (address ++ [number]) = reference := by
      rw [keyAt_append]
      simp [keyAt, entered, position]
    exact ⟨type, listed, placed.appearsAs same elsewhere followed appears⟩

end Placed

end TypeScope
end StorageLayout
