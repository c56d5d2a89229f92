import StorageLayout.Proofs.TypeDefinition.Skeleton

/-!
# The shape of a type

The shape of a key is the tree that results from inlining it and keeping the pieces: nodes with
encoding, size, member labels and places, and below them the shapes of what they refer to, keys
without entries, and levels up to an ancestor. Labels of types, contracts of members and keys with
entries do not occur in it. Two shapes are equal exactly when two walks that follow the same
references always stand at the same piece, and then all that is built from the two types is equal.
-/
namespace StorageLayout

/-- A type with every reference replaced by what it refers to. -/
inductive Shape where
  | resolved (node : TypeNode Shape)
  | unresolved (key : String)
  | recursive (levels : Nat)

/-- What stands at one place of a shape. -/
inductive Piece where
  | entry (skeleton : TypeNode Unit)
  | unresolved (key : String)
  | recursive (levels : Nat)

namespace Shape

/-- The pieces of a shape are kept as they are. -/
def inlining : Inlining Shape := ⟨.resolved, .unresolved, .recursive⟩

def piece : Shape → Piece
  | resolved node => .entry node.skeleton
  | unresolved key => .unresolved key
  | recursive levels => .recursive levels

end Shape

namespace TypeScope

/-- The shape of a reference below a path of ancestors. -/
def shapeBelow (s : TypeScope) (reference : String) (path : List String) : Shape :=
  s.inline Shape.inlining reference path

def shape (s : TypeScope) (key : String) : Shape := s.shapeBelow key []

/-- What stands at a reference below a path of ancestors. -/
def piece (s : TypeScope) (reference : String) (path : List String) : Piece :=
  match path.idxOf? reference with
  | some above => .recursive (above + 1)
  | none =>
    match s.find? reference with
    | none => .unresolved reference
    | some definition => .entry definition.node.skeleton

section Kinds

variable {s : TypeScope} {reference : String} {path : List String}

theorem kind_of_reference (s : TypeScope) (reference : String) (path : List String) :
    (∃ above, path.idxOf? reference = some above) ∨
      (reference ∉ path ∧ s.find? reference = none) ∨
      (reference ∉ path ∧ ∃ definition, s.find? reference = some definition) := by
  cases found : path.idxOf? reference with
  | some above => exact Or.inl ⟨above, rfl⟩
  | none =>
    have fresh : reference ∉ path := by simpa using found
    cases entered : s.find? reference with
    | none => exact Or.inr (Or.inl ⟨fresh, rfl⟩)
    | some definition => exact Or.inr (Or.inr ⟨fresh, definition, rfl⟩)

theorem piece_of_idxOf? {above : Nat} (found : path.idxOf? reference = some above) :
    s.piece reference path = .recursive (above + 1) := by
  unfold piece
  rw [found]

theorem piece_of_absent (fresh : reference ∉ path) (absent : s.find? reference = none) :
    s.piece reference path = .unresolved reference := by
  have unvisited : path.idxOf? reference = none := by simpa using fresh
  unfold piece
  rw [unvisited, absent]

theorem piece_of_find? {definition : TypeDefinition} (fresh : reference ∉ path)
    (entered : s.find? reference = some definition) :
    s.piece reference path = .entry definition.node.skeleton := by
  have unvisited : path.idxOf? reference = none := by simpa using fresh
  unfold piece
  rw [unvisited, entered]

theorem shapeBelow_of_find? {definition : TypeDefinition} (fresh : reference ∉ path)
    (entered : s.find? reference = some definition) :
    s.shapeBelow reference path =
      .resolved (definition.node.map fun below => s.shapeBelow below (reference :: path)) :=
  inline_of_find? fresh entered

theorem piece_shapeBelow : (s.shapeBelow reference path).piece = s.piece reference path := by
  rcases kind_of_reference s reference path with
    ⟨above, found⟩ | ⟨fresh, absent⟩ | ⟨fresh, definition, entered⟩
  · rw [shapeBelow, inline_of_idxOf? found, piece_of_idxOf? found]
    rfl
  · rw [shapeBelow, inline_of_absent fresh absent, piece_of_absent fresh absent]
    rfl
  · rw [shapeBelow_of_find? fresh entered, piece_of_find? fresh entered, Shape.piece,
      TypeNode.skeleton_map]

end Kinds

/-- Two references with the paths to them that are reached from two others by following, entry by
entry, the references at the same positions. -/
inductive Lockstep (s t : TypeScope) (root root' : String × List String) :
    String × List String → String × List String → Prop where
  | here : Lockstep s t root root' root root'
  | next {key key' : String} {path path' : List String} {definition definition' : TypeDefinition}
      {reference reference' : String} (position : Nat)
      (reached : Lockstep s t root root' (key, path) (key', path'))
      (fresh : key ∉ path) (fresh' : key' ∉ path')
      (entered : s.find? key = some definition) (entered' : t.find? key' = some definition')
      (listed : definition.node.references[position]? = some reference)
      (listed' : definition'.node.references[position]? = some reference') :
      Lockstep s t root root' (reference, key :: path) (reference', key' :: path')

/-- Walks in lockstep from two places never see a difference. -/
def Alike (s t : TypeScope) (root root' : String × List String) : Prop :=
  ∀ place place', Lockstep s t root root' place place' →
    s.piece place.1 place.2 = t.piece place'.1 place'.2

variable {s t : TypeScope}

theorem Lockstep.trans {root root' middle middle' place place' : String × List String}
    (upper : Lockstep s t root root' middle middle')
    (lower : Lockstep s t middle middle' place place') : Lockstep s t root root' place place' := by
  induction lower with
  | here => exact upper
  | next position _ fresh fresh' entered entered' listed listed' ih =>
    exact .next position ih fresh fresh' entered entered' listed listed'

theorem Alike.below {root root' middle middle' : String × List String}
    (alike : Alike s t root root') (reached : Lockstep s t root root' middle middle') :
    Alike s t middle middle' :=
  fun place place' lower => alike place place' (reached.trans lower)

/-- Equal pieces are of one kind. -/
theorem kinds_of_piece_eq {key key' : String} {path path' : List String}
    (same : s.piece key path = t.piece key' path') :
    (∃ above, path.idxOf? key = some above ∧ path'.idxOf? key' = some above) ∨
      (key ∉ path ∧ key' ∉ path' ∧ s.find? key = none ∧ t.find? key' = none ∧ key = key') ∨
      (key ∉ path ∧ key' ∉ path' ∧ ∃ definition definition', s.find? key = some definition ∧
        t.find? key' = some definition' ∧
        definition.node.skeleton = definition'.node.skeleton) := by
  rcases kind_of_reference s key path with
    ⟨above, found⟩ | ⟨fresh, absent⟩ | ⟨fresh, definition, entered⟩ <;>
  rcases kind_of_reference t key' path' with
    ⟨above', found'⟩ | ⟨fresh', absent'⟩ | ⟨fresh', definition', entered'⟩
  · rw [piece_of_idxOf? found, piece_of_idxOf? found', Piece.recursive.injEq] at same
    obtain rfl : above = above' := by omega
    exact Or.inl ⟨above, found, found'⟩
  · rw [piece_of_idxOf? found, piece_of_absent fresh' absent'] at same
    cases same
  · rw [piece_of_idxOf? found, piece_of_find? fresh' entered'] at same
    cases same
  · rw [piece_of_absent fresh absent, piece_of_idxOf? found'] at same
    cases same
  · rw [piece_of_absent fresh absent, piece_of_absent fresh' absent', Piece.unresolved.injEq]
      at same
    exact Or.inr (Or.inl ⟨fresh, fresh', absent, absent', same⟩)
  · rw [piece_of_absent fresh absent, piece_of_find? fresh' entered'] at same
    cases same
  · rw [piece_of_find? fresh entered, piece_of_idxOf? found'] at same
    cases same
  · rw [piece_of_find? fresh entered, piece_of_absent fresh' absent'] at same
    cases same
  · rw [piece_of_find? fresh entered, piece_of_find? fresh' entered', Piece.entry.injEq] at same
    exact Or.inr (Or.inr ⟨fresh, fresh', definition, definition', entered, entered', same⟩)

/-- Whatever is built from two types that walks cannot tell apart is the same. -/
theorem inline_eq_of_alike {α : Type} (build : Inlining α) {key key' : String}
    {path path' : List String} (alike : Alike s t (key, path) (key', path')) :
    s.inline build key path = t.inline build key' path' := by
  -- The walk from a reference is the rest of a walk from the entry: likeness is handed down.
  fun_induction TypeScope.inline s build key path generalizing key' path' with
  | case1 key path above found =>
    rcases kinds_of_piece_eq (alike _ _ .here) with ⟨_, found', other⟩ | ⟨fresh, -⟩ | ⟨fresh, -⟩
    · obtain rfl := Option.some.inj (found.symm.trans found')
      rw [inline_of_idxOf? other]
    · simp [List.idxOf?_eq_none_iff.2 fresh] at found
    · simp [List.idxOf?_eq_none_iff.2 fresh] at found
  | case2 key path unvisited absent =>
    rcases kinds_of_piece_eq (alike _ _ .here) with
      ⟨_, found, -⟩ | ⟨-, fresh', -, absent', rfl⟩ | ⟨-, -, definition, -, entered, -⟩
    · simp [unvisited] at found
    · rw [inline_of_absent fresh' absent']
    · simp [absent] at entered
  | case3 key path unvisited definition entered ih =>
    rcases kinds_of_piece_eq (alike _ _ .here) with
      ⟨_, found, -⟩ | ⟨-, -, absent, -⟩ |
        ⟨fresh, fresh', own, definition', entered'', entered', same⟩
    · simp [unvisited] at found
    · simp [absent] at entered
    · obtain rfl := Option.some.inj (entered.symm.trans entered'')
      rw [inline_of_find? fresh' entered']
      congr 1
      refine TypeNode.map_eq_map_iff.2 ⟨same, List.ext_getElem? fun position => ?_⟩
      have lengths := TypeNode.length_references_of_skeleton_eq same
      rw [List.getElem?_map, List.getElem?_map]
      by_cases inside : position < definition.node.references.length
      · have listed := List.getElem?_eq_getElem inside
        have listed' := List.getElem?_eq_getElem (lengths ▸ inside)
        rw [listed, listed', Option.map_some, Option.map_some]
        have below : Lockstep s t (key, path) (key', path') _ _ :=
          .next position .here fresh fresh' entered entered' listed listed'
        rw [ih _ (alike.below below)]
      · rw [List.getElem?_eq_none (by omega), List.getElem?_eq_none (by omega)]
        rfl

theorem shapeBelow_eq_of_lockstep {root root' place place' : String × List String}
    (same : s.shapeBelow root.1 root.2 = t.shapeBelow root'.1 root'.2)
    (reached : Lockstep s t root root' place place') :
    s.shapeBelow place.1 place.2 = t.shapeBelow place'.1 place'.2 := by
  induction reached with
  | here => exact same
  | next position _ fresh fresh' entered entered' listed listed' ih =>
    rw [shapeBelow_of_find? fresh entered, shapeBelow_of_find? fresh' entered',
      Shape.resolved.injEq] at ih
    exact TypeNode.eq_of_map_eq_map ih listed listed'

/-- Shapes are equal exactly when walks in lockstep never see a difference. -/
theorem shapeBelow_eq_iff_alike {root root' : String × List String} :
    s.shapeBelow root.1 root.2 = t.shapeBelow root'.1 root'.2 ↔ Alike s t root root' := by
  constructor
  · intro same place place' reached
    rw [← piece_shapeBelow, ← piece_shapeBelow, shapeBelow_eq_of_lockstep same reached]
  · exact inline_eq_of_alike Shape.inlining

end TypeScope
end StorageLayout
