import StorageLayout.Proofs.Fingerprint.Runs

/-!
# Places at which hashes are filed

The places of a dictionary are its keys with the paths that lead to them, and hashes are filed by
place, up to the context. The places below a place are those that a walk along references reaches.
A consistent memo is right and has, with each hash, the hashes that went into it.
-/
namespace StorageLayout

namespace TypeDictionary

/-- A place below another one, reached by following references to entries that are not on the
path. -/
inductive Walk (types : TypeDictionary) (key : String) (path : List String) :
    String → List String → Prop where
  | here : Walk types key path key path
  | next {last reference : String} {above : List String}
      (walked : Walk types key path last above) (edge : types.Refers last reference)
      (fresh : reference ∉ last :: above) : Walk types key path reference (last :: above)

namespace Walk

variable {types : TypeDictionary} {key reference last : String} {path above : List String}

/-- What lies below a place that a key leads to lies below the key. -/
theorem head (edge : types.Refers key reference) (fresh : reference ∉ key :: path)
    (walked : types.Walk reference (key :: path) last above) : types.Walk key path last above := by
  induction walked with
  | here => exact .next .here edge fresh
  | next _ edge' fresh' ih => exact .next ih edge' fresh'

theorem not_mem (walked : types.Walk key path last above) (fresh : key ∉ path) :
    last ∉ above := by
  cases walked with
  | here => exact fresh
  | next _ _ fresh' => exact fresh'

theorem mem_above (walked : types.Walk key path last above) {ancestor : String}
    (member : ancestor ∈ path) : ancestor ∈ above := by
  induction walked with
  | here => exact member
  | next _ _ _ ih => exact List.mem_cons_of_mem _ ih

/-- From a key with an entry, a walk visits distinct keys with entries. -/
theorem distinct (walked : types.Walk key [] last above) (entry : types.contains key) :
    (last :: above).Nodup ∧ ∀ visited ∈ last :: above, types.contains visited := by
  induction walked with
  | here => simpa using entry
  | next _ edge fresh ih =>
    exact ⟨List.nodup_cons.2 ⟨fresh, ih.1⟩, List.forall_mem_cons.2 ⟨edge.contains_target, ih.2⟩⟩

theorem ancestry (walked : types.Walk key path last above) (ancestry : types.Ancestry key path) :
    types.Ancestry last above := by
  induction walked with
  | here => exact ancestry
  | next _ edge _ ih => exact ih.cons edge

end Walk

end TypeDictionary

/-- The height of a node is limited by the heights of what it refers to. -/
theorem NodeDigest.height_ofNode_le (hash : String → String) (n : TypeNode ChildRef) (room : Nat) :
    (NodeDigest.ofNode hash n).height ≤ room + 1 ↔ ∀ r ∈ n.references, r.height ≤ room := by
  have highest (heights : List Nat) (start : Nat) :
      heights.foldl max start ≤ room ↔ start ≤ room ∧ ∀ height ∈ heights, height ≤ room := by
    induction heights generalizing start with
    | nil => simp
    | cons height rest ih =>
      rw [List.foldl_cons, ih, Nat.max_le, List.forall_mem_cons, and_assoc]
  simp [NodeDigest.ofNode, highest]

namespace Canonicalizer

/-- Hashes are filed by key and context. -/
abbrev Place := String × List String

variable {c : Canonicalizer}

/-- A set of places that has, with each place, those that its entry leads to. -/
def Closed (c : Canonicalizer) (P : Place → Prop) : Prop :=
  ∀ key path reference, c.types.Ancestry key path → key ∉ path → P (key, c.context key path) →
    c.types.Refers key reference → reference ∉ key :: path →
      P (reference, c.context reference (key :: path))

theorem Closed.walk {P : Place → Prop} (closed : c.Closed P) {key last : String}
    {path above : List String} (ancestry : c.types.Ancestry key path) (fresh : key ∉ path)
    (place : P (key, c.context key path)) (walked : c.types.Walk key path last above) :
    P (last, c.context last above) := by
  induction walked with
  | here => exact place
  | next walked edge fresh' ih =>
    exact closed _ _ _ (walked.ancestry ancestry) (walked.not_mem fresh) ih edge fresh'

/-- The places below a place, itself included. -/
def Below (c : Canonicalizer) (key : String) (path : List String) (place : Place) : Prop :=
  ∃ last above, c.types.Walk key path last above ∧ place = (last, c.context last above)

/-- The places below what an entry refers to. -/
def Inside (c : Canonicalizer) (key : String) (path : List String) (place : Place) : Prop :=
  ∃ last above, c.types.Walk key path last above ∧ key ∈ above ∧ last ≠ key ∧
    place = (last, c.context last above)

theorem Inside.below {key : String} {path : List String} {place : Place}
    (inside : c.Inside key path place) : c.Below key path place := by
  obtain ⟨last, above, walked, -, -, rfl⟩ := inside
  exact ⟨last, above, walked, rfl⟩

theorem Below.inside {key reference : String} {path : List String} {place : Place}
    (edge : c.types.Refers key reference) (fresh : reference ∉ key :: path)
    (below : c.Below reference (key :: path) place) : c.Inside key path place := by
  obtain ⟨last, above, walked, rfl⟩ := below
  have under_key : key ∈ above := walked.mem_above (by simp)
  refine ⟨last, above, walked.head edge fresh, under_key, ?_, rfl⟩
  rintro rfl
  exact walked.not_mem fresh under_key

/-- Besides being right, a memo has with each hash those that went into it, and the fingerprints in
it are of types that are not too deep. -/
structure Consistent (c : Canonicalizer) (memo : Memo) : Prop extends c.Sound memo where
  closed : c.Closed (· ∈ memo.nodes)
  shallow : ∀ key found root, memo.fingerprints[key]? = some found →
    c.plainDigest c.hash key [] = .digest root → root.height ≤ maxTypeDepth

theorem consistent_empty : c.Consistent {} where
  toSound := sound_empty
  closed key path reference ancestry fresh stored := by simp at stored
  shallow key found root stored := by simp at stored

theorem Consistent.counted {memo : Memo} (consistent : c.Consistent memo) :
    c.Consistent memo.counted :=
  ⟨consistent.toSound.withSteps _, consistent.closed, consistent.shallow⟩

theorem Consistent.restarted {memo : Memo} (consistent : c.Consistent memo) :
    c.Consistent memo.restarted :=
  ⟨consistent.toSound.withSteps _, consistent.closed, consistent.shallow⟩

/-- The plain digest of a place may be stored when those of the places that it leads to are. -/
theorem Consistent.withNode (faithful : c.Faithful) {memo : Memo} (consistent : c.Consistent memo)
    {key : String} {path : List String} {digest : NodeDigest}
    (ancestry : c.types.Ancestry key path) (fresh : key ∉ path)
    (plain : c.plainDigest c.hash key path = .digest digest)
    (stored : ∀ reference, c.types.Refers key reference → reference ∉ key :: path →
      (reference, c.context reference (key :: path)) ∈ memo.nodes) :
    c.Consistent (memo.withNode (key, c.context key path) digest) where
  toSound := consistent.toSound.insertNode faithful ancestry fresh plain
  shallow := consistent.shallow
  closed key' path' reference ancestry' fresh' place edge unvisited := by
    rcases Std.HashMap.mem_insert.1 place with same | place
    · obtain ⟨rfl, contexts⟩ := Prod.mk.inj (eq_of_beq same)
      -- The same references are followed below both paths, and to the same places.
      have indices : path.idxOf? reference = path'.idxOf? reference := by
        rw [idxOf?_context faithful ancestry (.single edge), contexts,
          ← idxOf?_context faithful ancestry' (.single edge)]
      have unvisited' : reference ∉ key :: path := by
        rw [List.mem_cons, not_or] at unvisited ⊢
        refine ⟨unvisited.1, ?_⟩
        rw [← List.idxOf?_eq_none_iff, indices]
        exact List.idxOf?_eq_none_iff.2 unvisited.2
      rw [context_cons faithful path' edge, ← contexts, ← context_cons faithful path edge]
      exact Std.HashMap.mem_insert.2 (Or.inr (stored reference edge unvisited'))
    · exact Std.HashMap.mem_insert.2
        (Or.inr (consistent.closed key' path' reference ancestry' fresh' place edge unvisited))

end Canonicalizer
end StorageLayout
