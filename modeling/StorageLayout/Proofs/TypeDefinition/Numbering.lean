import StorageLayout.Proofs.TypeDefinition.Expansion

/-!
# Displays that read the same

Two displays that read the same expand types in step, so that the types that are expanded first,
second and so on for one key go with those for the other. If also every key that is shown in place
of an earlier type has one number in both orders, then paired types refer to paired types, and walks
in lockstep from the two keys never see a difference.
-/
namespace StorageLayout

namespace TypeScope

/-- Two keys have one number in two orders. -/
def Paired (order order' : List String) (key key' : String) : Prop :=
  ∃ number, order.idxOf? key = some number ∧ order'.idxOf? key' = some number

section Paired

variable {order order' : List String} {key key' : String}

theorem idxOf?_injective {number : Nat} (first : order.idxOf? key = some number)
    (second : order.idxOf? key' = some number) : key = key' := by
  obtain ⟨_, rfl, -⟩ := List.idxOf?_eq_some_iff.1 first
  obtain ⟨_, rfl, -⟩ := List.idxOf?_eq_some_iff.1 second
  rfl

theorem Paired.mem (paired : Paired order order' key key') : key ∈ order ∧ key' ∈ order' := by
  obtain ⟨number, first, second⟩ := paired
  exact ⟨List.isSome_idxOf?.1 (by rw [first]; rfl), List.isSome_idxOf?.1 (by rw [second]; rfl)⟩

/-- Pairs do not share a key with others. -/
theorem Paired.eq_iff {other other' : String} (paired : Paired order order' key key')
    (others : Paired order order' other other') : key = other ↔ key' = other' := by
  obtain ⟨number, first, second⟩ := paired
  obtain ⟨number', first', second'⟩ := others
  constructor
  · rintro rfl
    obtain rfl := Option.some.inj (first.symm.trans first')
    exact idxOf?_injective second second'
  · rintro rfl
    obtain rfl := Option.some.inj (second.symm.trans second')
    exact idxOf?_injective first first'

/-- Paired keys are found at one level of paired paths. -/
theorem Paired.idxOf?_eq {path path' : List String}
    (paths : List.Forall₂ (Paired order order') path path')
    (paired : Paired order order' key key') : path.idxOf? key = path'.idxOf? key' := by
  induction paths with
  | nil => rfl
  | @cons head head' rest rest' first _ ih =>
    rw [List.idxOf?_cons, List.idxOf?_cons, ih]
    simp only [beq_iff_eq, first.eq_iff paired]

theorem paired_of_isPrefix {before before' : List String} (sizes : before.length = before'.length)
    (new : key ∉ before) (new' : key' ∉ before') (begins : before ++ [key] <+: order)
    (begins' : before' ++ [key'] <+: order') : Paired order order' key key' := by
  have last {list : List String} {added : String} (fresh : added ∉ list) :
      (list ++ [added]).idxOf? added = some list.length := by
    have unlisted : list.findIdx? (· == added) = none := List.idxOf?_eq_none_iff.2 fresh
    simp [List.idxOf?, List.findIdx?_append, unlisted]
  exact ⟨before.length, begins.findIdx?_eq_some (last new),
    begins'.findIdx?_eq_some (sizes ▸ last new')⟩

end Paired

/-- Two references are shown alike: by one key without an entry, as types of one skeleton that refer
to nothing, or by the same number of their expansion. -/
inductive Matched (s t : TypeScope) (order order' : List String) : String → String → Prop where
  | unresolved {key : String} (absent : s.find? key = none) (absent' : t.find? key = none) :
      Matched s t order order' key key
  | simple {key key' : String} {definition definition' : TypeDefinition}
      (entered : s.find? key = some definition) (entered' : t.find? key' = some definition')
      (simple : definition.isComposite = false) (simple' : definition'.isComposite = false)
      (skeletons : definition.node.skeleton = definition'.node.skeleton) :
      Matched s t order order' key key'
  | numbered {key key' : String} (paired : Paired order order' key key') :
      Matched s t order order' key key'

/-- Two keys have entries of one skeleton, and the references of these match. -/
def EntriesMatch (s t : TypeScope) (order order' : List String) (key key' : String) : Prop :=
  ∃ definition definition', s.find? key = some definition ∧ t.find? key' = some definition' ∧
    definition.node.skeleton = definition'.node.skeleton ∧
    List.Forall₂ (Matched s t order order') definition.node.displayReferences
      definition'.node.displayReferences

/-- The entries that were expanded after `before` match their partners. -/
def NewEntriesMatch (s t : TypeScope) (order order' before after : List String) : Prop :=
  ∀ key ∈ after, key ∉ before → ∀ key', Paired order order' key key' →
    EntriesMatch s t order order' key key'

variable {s t : TypeScope} {order order' : List String}

theorem NewEntriesMatch.refl (before : List String) :
    NewEntriesMatch s t order order' before before :=
  fun _ member unlisted => absurd member unlisted

theorem NewEntriesMatch.trans {before between after : List String}
    (first : NewEntriesMatch s t order order' before between)
    (second : NewEntriesMatch s t order order' between after) :
    NewEntriesMatch s t order order' before after := by
  intro key member unlisted
  by_cases earlier : key ∈ between
  · exact first key earlier unlisted
  · exact second key member earlier

theorem NewEntriesMatch.append {before : List String} {key key' : String}
    (pair : Paired order order' key key') (matched : EntriesMatch s t order order' key key') :
    NewEntriesMatch s t order order' before (before ++ [key]) := by
  intro other member unlisted other' paired
  obtain rfl : other = key := by simpa [unlisted] using member
  obtain rfl := (pair.eq_iff paired).1 rfl
  exact matched

/-- Types of one skeleton both refer to something, or neither does. -/
theorem isComposite_eq_of_skeleton_eq {definition definition' : TypeDefinition}
    (skeletons : definition.node.skeleton = definition'.node.skeleton) :
    definition.isComposite = definition'.isComposite := by
  have lengths := TypeNode.length_references_of_skeleton_eq skeletons
  rw [Bool.eq_iff_iff, isComposite_iff, isComposite_iff, ← List.length_pos_iff_exists_mem,
    ← List.length_pos_iff_exists_mem, lengths]

/-- References that are shown alike match, and so do the types that are first expanded for them. -/
theorem Expands.matched
    {path before references after path' before' references' after' : List String}
    {types : List TypeRef} (first : s.Expands path before references types after)
    (second : t.Expands path' before' references' types after')
    (paths : List.Forall₂ (Paired order order') path path') (sizes : before.length = before'.length)
    (begins : after <+: order) (begins' : after' <+: order')
    (kept : ∀ type ∈ types, ∀ key, type.Shows key → order.idxOf? key = order'.idxOf? key) :
    after.length = after'.length ∧
      List.Forall₂ (Matched s t order order') references references' ∧
      NewEntriesMatch s t order order' before after := by
  induction first generalizing path' before' references' after' with
  | nil =>
    cases second
    exact ⟨sizes, .nil, .refl _⟩
  | recursive found others ih =>
    rw [List.forall_mem_cons] at kept
    cases second with
    | recursive found' others' =>
      obtain ⟨bound, rfl, -⟩ := List.idxOf?_eq_some_iff.1 found
      obtain ⟨bound', rfl, -⟩ := List.idxOf?_eq_some_iff.1 found'
      obtain ⟨lengths, matched, entries⟩ := ih others' paths sizes begins begins' kept.2
      exact ⟨lengths, .cons (.numbered (paths.get bound bound')) matched, entries⟩
  | unresolved fresh absent others ih =>
    rw [List.forall_mem_cons] at kept
    cases second with
    | unresolved fresh' absent' others' =>
      obtain ⟨lengths, matched, entries⟩ := ih others' paths sizes begins begins' kept.2
      exact ⟨lengths, .cons (.unresolved absent absent') matched, entries⟩
  | simple fresh entered simple labelled skeleton others ih =>
    rw [List.forall_mem_cons] at kept
    cases second with
    | simple fresh' entered' simple' labelled' skeleton' others' =>
      obtain ⟨lengths, matched, entries⟩ := ih others' paths sizes begins begins' kept.2
      have same := skeleton.symm.trans skeleton'
      exact ⟨lengths, .cons (.simple entered entered' simple simple' same) matched, entries⟩
    | first fresh' entered' composite' new' labelled' skeleton' below' others' =>
      have same := isComposite_eq_of_skeleton_eq (skeleton.symm.trans skeleton')
      simp [simple, composite'] at same
  | @repeated path before rest after types key definition fresh entered composite expanded others
      ih =>
    rw [List.forall_mem_cons] at kept
    cases second with
    | repeated fresh' entered' composite' expanded' others' =>
      obtain ⟨lengths, matched, entries⟩ := ih others' paths sizes begins begins' kept.2
      have listed := (others.isPrefix.trans begins).subset expanded
      obtain ⟨number, numbered⟩ := Option.isSome_iff_exists.1 (List.isSome_idxOf?.2 listed)
      have pair : Paired order order' key key :=
        ⟨number, numbered, (kept.1 key .repeated).symm.trans numbered⟩
      exact ⟨lengths, .cons (.numbered pair) matched, entries⟩
  | @first path before between rest after types key label definition node fresh entered composite
      new labelled skeleton below others ih_below ih =>
    rw [List.forall_mem_cons] at kept
    cases second with
    | simple fresh' entered' simple' labelled' skeleton' others' =>
      have same := isComposite_eq_of_skeleton_eq (skeleton.symm.trans skeleton')
      simp [simple', composite] at same
    | @first _ _ between' rest' _ _ key' _ _ _ fresh' entered' composite' new' labelled' skeleton'
        below' others' =>
      have begins_between := others.isPrefix.trans begins
      have begins_between' := others'.isPrefix.trans begins'
      have pair : Paired order order' key key' := paired_of_isPrefix sizes new new'
        (below.isPrefix.trans begins_between) (below'.isPrefix.trans begins_between')
      obtain ⟨lengths_between, matched_below, entries_below⟩ :=
        ih_below below' (.cons pair paths) (by simp [sizes]) begins_between begins_between'
          fun type listed other shows => kept.1 other
            (.inside ((TypeNode.mem_displayReferences_iff _ _).1 listed) shows)
      obtain ⟨lengths, matched, entries⟩ :=
        ih others' paths lengths_between begins begins' kept.2
      have own : EntriesMatch s t order order' key key' :=
        ⟨_, _, entered, entered', skeleton.symm.trans skeleton', matched_below⟩
      exact ⟨lengths, .cons (.numbered pair) matched,
        (NewEntriesMatch.append pair own).trans (entries_below.trans entries)⟩

/-- The type of a key refers to something. -/
def RefersOn (s : TypeScope) (key : String) : Prop :=
  ∃ definition, s.find? key = some definition ∧ definition.isComposite = true

/-- Matched keys show the same piece below paths that match ancestor by ancestor. -/
theorem piece_eq_of_matched {path path' : List String} {key key' : String}
    (entries : ∀ key key', Paired order order' key key' → EntriesMatch s t order order' key key')
    (paths : List.Forall₂ (Paired order order') path path')
    (above : ∀ ancestor ∈ path, s.RefersOn ancestor)
    (above' : ∀ ancestor ∈ path', t.RefersOn ancestor)
    (matched : Matched s t order order' key key') : s.piece key path = t.piece key' path' := by
  cases matched with
  | unresolved absent absent' =>
    have fresh : key ∉ path := fun member => by
      obtain ⟨definition, entered, -⟩ := above key member
      exact nomatch absent.symm.trans entered
    have fresh' : key ∉ path' := fun member => by
      obtain ⟨definition, entered, -⟩ := above' key member
      exact nomatch absent'.symm.trans entered
    rw [piece_of_absent fresh absent, piece_of_absent fresh' absent']
  | simple entered entered' simple simple' skeletons =>
    have fresh : key ∉ path := fun member => by
      obtain ⟨definition, entered₂, composite⟩ := above key member
      obtain rfl := Option.some.inj (entered.symm.trans entered₂)
      exact nomatch simple.symm.trans composite
    have fresh' : key' ∉ path' := fun member => by
      obtain ⟨definition, entered₂, composite⟩ := above' key' member
      obtain rfl := Option.some.inj (entered'.symm.trans entered₂)
      exact nomatch simple'.symm.trans composite
    rw [piece_of_find? fresh entered, piece_of_find? fresh' entered', skeletons]
  | numbered paired =>
    have levels := paired.idxOf?_eq paths
    cases found : path.idxOf? key with
    | some level =>
      rw [piece_of_idxOf? found, piece_of_idxOf? (levels.symm.trans found)]
    | none =>
      obtain ⟨definition, definition', entered, entered', skeletons, -⟩ := entries key key' paired
      have fresh := List.idxOf?_eq_none_iff.1 found
      have fresh' := List.idxOf?_eq_none_iff.1 (levels.symm.trans found)
      rw [piece_of_find? fresh entered, piece_of_find? fresh' entered', skeletons]

/-- A walk in lockstep stays at references that match, below paired ancestors. -/
theorem Lockstep.matched {key key' : String} {place place' : String × List String}
    (entries : ∀ key key', Paired order order' key key' → EntriesMatch s t order order' key key')
    (root : Paired order order' key key')
    (reached : Lockstep s t (key, []) (key', []) place place') :
    Matched s t order order' place.1 place'.1 ∧
      List.Forall₂ (Paired order order') place.2 place'.2 ∧
      (∀ ancestor ∈ place.2, s.RefersOn ancestor) ∧ ∀ ancestor ∈ place'.2, t.RefersOn ancestor := by
  induction reached with
  | here => exact ⟨.numbered root, .nil, by simp, by simp⟩
  | @next last last' path path' definition definition' _ _ position _ _ _ entered entered' listed
      listed' ih =>
    obtain ⟨matched, paths, above, above'⟩ := ih
    have composite := (isComposite_iff definition).2 ⟨_, List.mem_of_getElem? listed⟩
    have composite' := (isComposite_iff definition').2 ⟨_, List.mem_of_getElem? listed'⟩
    have paired : Paired order order' last last' := by
      cases matched with
      | unresolved absent => exact nomatch absent.symm.trans entered
      | simple entered₂ _ simple =>
        obtain rfl := Option.some.inj (entered.symm.trans entered₂)
        exact nomatch simple.symm.trans composite
      | numbered paired => exact paired
    obtain ⟨own, own', entered₂, entered₂', skeletons, listed_alike⟩ := entries last last' paired
    obtain rfl := Option.some.inj (entered.symm.trans entered₂)
    obtain rfl := Option.some.inj (entered'.symm.trans entered₂')
    have references := TypeNode.forall₂_references skeletons listed_alike
    obtain ⟨bound, rfl⟩ := List.getElem?_eq_some_iff.1 listed
    obtain ⟨bound', rfl⟩ := List.getElem?_eq_some_iff.1 listed'
    refine ⟨references.get bound bound', .cons paired paths, ?_, ?_⟩
    · exact List.forall_mem_cons.2 ⟨⟨definition, entered, composite⟩, above⟩
    · exact List.forall_mem_cons.2 ⟨⟨definition', entered', composite'⟩, above'⟩

/-- If two keys are shown alike, and every key that stands for an earlier type has one number in
both orders, walks from the two keys cannot tell them apart. -/
theorem Displays.alike {key key' : String} {shown : DisplayType}
    (first : s.Displays key shown order) (second : t.Displays key' shown order')
    (kept : ∀ other, shown.Shows other → order.idxOf? other = order'.idxOf? other) :
    Alike s t (key, []) (key', []) := by
  obtain ⟨definition, entered, -, skeleton, expands⟩ := first
  obtain ⟨definition', entered', -, skeleton', expands'⟩ := second
  have begins : [] ++ [key] <+: order := expands.isPrefix
  have begins' : [] ++ [key'] <+: order' := expands'.isPrefix
  have root : Paired order order' key key' :=
    paired_of_isPrefix rfl List.not_mem_nil List.not_mem_nil begins begins'
  obtain ⟨-, matched, below⟩ := expands.matched expands' (.cons root .nil) rfl List.prefix_rfl
    List.prefix_rfl fun type listed other shows =>
      kept other ⟨type, (TypeNode.mem_displayReferences_iff _ _).1 listed, shows⟩
  have own : EntriesMatch s t order order' key key' :=
    ⟨definition, definition', entered, entered', skeleton.symm.trans skeleton', matched⟩
  have all : NewEntriesMatch s t order order' [] order :=
    (NewEntriesMatch.append root own).trans below
  have entries (other other' : String) (paired : Paired order order' other other') :
      EntriesMatch s t order order' other other' :=
    all other paired.mem.1 List.not_mem_nil other' paired
  intro place place' reached
  obtain ⟨matched, paths, above, above'⟩ := reached.matched entries root
  exact piece_eq_of_matched entries paths above above' matched

end TypeScope
end StorageLayout
