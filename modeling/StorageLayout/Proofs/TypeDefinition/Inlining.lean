import StorageLayout.TypeDefinition.Node
import StorageLayout.TypeDefinition.Reach
import StorageLayout.TypeDefinition.Scope

/-!
# Inlining a type

The plain recursion over a dictionary: every reference is replaced by the entry it names, a key that
is already on the path by the number of levels up to it, and a key without an entry by itself. It
remembers nothing, looks at no components and has no limit; it ends because a path holds every key
of the dictionary at most once. What is built from the pieces is a parameter.
-/
namespace StorageLayout

def NodeMember.map {ρ σ : Type} (f : ρ → σ) (m : NodeMember ρ) : NodeMember σ :=
  ⟨m.label, m.offset, m.slot, f m.type⟩

namespace TypeNode

variable {ρ σ τ : Type}

def map (f : ρ → σ) (n : TypeNode ρ) : TypeNode σ where
  encoding := n.encoding
  numberOfBytes := n.numberOfBytes
  key := n.key.map f
  members := n.members.map (·.map (NodeMember.map f))
  value := n.value.map f
  base := n.base.map f

theorem map_map (f : ρ → σ) (g : σ → τ) (n : TypeNode ρ) :
    (n.map f).map g = n.map (g ∘ f) := by
  have members : NodeMember.map g ∘ NodeMember.map f = NodeMember.map (g ∘ f) := rfl
  simp [map, members, Function.comp_def (List.map _)]

theorem references_map (f : ρ → σ) (n : TypeNode ρ) :
    (n.map f).references = n.references.map f := by
  have types (members : List (NodeMember ρ)) :
      (members.map (NodeMember.map f)).map NodeMember.type =
        (members.map NodeMember.type).map f := by
    simp [NodeMember.map, Function.comp_def]
  cases members : n.members <;> simp [map, references, members, types, Option.toList_map]

/-- Only what the references are replaced by matters. -/
theorem map_congr {f g : ρ → σ} {n : TypeNode ρ} (same : ∀ r ∈ n.references, f r = g r) :
    n.map f = n.map g := by
  have on_option (reference : Option ρ) (sub : ∀ r ∈ reference.toList, r ∈ n.references) :
      reference.map f = reference.map g :=
    Option.map_congr fun r member => same r (sub r (by simpa using member))
  have on_members : n.members.map (·.map (NodeMember.map f)) =
      n.members.map (·.map (NodeMember.map g)) := by
    refine Option.map_congr fun members listed => List.map_congr_left fun m member => ?_
    have referred : m.type ∈ n.references := by
      simp only [references, listed, Option.getD_some]
      simp [List.mem_map_of_mem member]
    rw [NodeMember.map, NodeMember.map, same m.type referred]
  rw [map, map, on_members, on_option n.key, on_option n.value, on_option n.base]
  all_goals
    intro r member
    simp [references, member]

end TypeNode

/-- What is built from the pieces of an inlined type. -/
structure Inlining (α : Type) where
  /-- From an entry whose references are built already. -/
  entry : TypeNode α → α
  /-- From a key that has no entry. -/
  unresolved : String → α
  /-- From the number of levels up to a key on the path. -/
  recursive : Nat → α

namespace TypeScope

variable {α : Type}

theorem length_unvisited_lt (s : TypeScope) {key : String} {path : List String}
    {definition : TypeDefinition} (fresh : path.idxOf? key = none)
    (entered : s.find? key = some definition) :
    (s.types.keys.filter (· ∉ key :: path)).length < (s.types.keys.filter (· ∉ path)).length := by
  have unvisited : key ∉ path := by simpa using fresh
  refine TypeDictionary.length_filter_lt (a := key) ?_ ?_ (by simpa using unvisited) (by simp)
  · intro x
    simp
  · obtain ⟨before, after, split, -⟩ := List.lookup_eq_some_iff.1 entered
    simp [Dictionary.keys, split]

/-- What a reference stands for below a path of ancestors, from the parent to the root. -/
def inline (s : TypeScope) (build : Inlining α) (reference : String) (path : List String) : α :=
  match fresh : path.idxOf? reference with
  | some above => build.recursive (above + 1)
  | none =>
    match _entered : s.find? reference with
    | none => build.unresolved reference
    | some definition =>
      build.entry (definition.node.map fun below => s.inline build below (reference :: path))
termination_by (s.types.keys.filter (· ∉ path)).length
decreasing_by exact s.length_unvisited_lt fresh _entered

variable {s : TypeScope} {build : Inlining α} {reference : String} {path : List String}

theorem inline_of_idxOf? {above : Nat} (found : path.idxOf? reference = some above) :
    s.inline build reference path = build.recursive (above + 1) := by
  rw [inline]
  split
  · next above' found' =>
    obtain rfl := Option.some.inj (found.symm.trans found')
    rfl
  · next fresh => simp [found] at fresh

theorem inline_of_absent (fresh : reference ∉ path) (absent : s.find? reference = none) :
    s.inline build reference path = build.unresolved reference := by
  have unvisited : path.idxOf? reference = none := by simpa using fresh
  rw [inline]
  split
  · next found => simp [unvisited] at found
  · split
    · rfl
    · next entered => simp [absent] at entered

/-- An entry that is not above is built from what is built for its references. -/
theorem inline_of_find? {definition : TypeDefinition} (fresh : reference ∉ path)
    (entered : s.find? reference = some definition) :
    s.inline build reference path =
      build.entry (definition.node.map fun below => s.inline build below (reference :: path)) := by
  have unvisited : path.idxOf? reference = none := by simpa using fresh
  rw [inline]
  split
  · next found => simp [unvisited] at found
  · split
    · next absent => simp [absent] at entered
    · next definition' entered' =>
      obtain rfl := Option.some.inj (entered.symm.trans entered')
      rfl

end TypeScope
end StorageLayout
