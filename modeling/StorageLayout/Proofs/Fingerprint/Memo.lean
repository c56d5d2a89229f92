import StorageLayout.Proofs.Fingerprint.Context
import StorageLayout.Proofs.Fingerprint.Resolution

/-!
# Remembered hashes are right

The plain digest of a key is the one that is computed with nothing remembered, no table of what is
reachable and no limit. Whatever has been asked before, and whether it failed or not, each hash in
the memo is the plain one, for every path with the context under which it is filed. So a fingerprint
that is given is the start of the plain hash.
-/
namespace StorageLayout

/-- The pieces of a digest: a node is hashed with the digests of what it refers to. -/
def ChildRef.inlining (hash : String → String) : Inlining ChildRef where
  entry n := .digest (NodeDigest.ofNode hash n)
  unresolved := .unresolved
  recursive := .recursive

/-- What the plain recursion records about a reference below a path. -/
def TypeScope.plainDigest (s : TypeScope) (hash : String → String) (reference : String)
    (path : List String) : ChildRef :=
  s.inline (ChildRef.inlining hash) reference path

namespace TypeScope

variable {s : TypeScope} {hash : String → String} {key : String} {path : List String}

theorem plainDigest_of_idxOf? {above : Nat} (found : path.idxOf? key = some above) :
    s.plainDigest hash key path = .recursive (above + 1) :=
  inline_of_idxOf? found

theorem plainDigest_of_absent (fresh : key ∉ path) (absent : s.find? key = none) :
    s.plainDigest hash key path = .unresolved key :=
  inline_of_absent fresh absent

theorem plainDigest_of_find? {definition : TypeDefinition} (fresh : key ∉ path)
    (entered : s.find? key = some definition) :
    s.plainDigest hash key path = .digest (.ofNode hash (definition.node.map fun reference =>
      s.plainDigest hash reference (key :: path))) :=
  inline_of_find? fresh entered

end TypeScope

def NodeDigest.fingerprint (d : NodeDigest) : String :=
  String.ofList (d.hash.toList.take fingerprintLength)

namespace Canonicalizer

/-- Everything remembered agrees with the plain recursion. -/
structure Sound (c : Canonicalizer) (memo : Memo) : Prop where
  nodes : ∀ key context found, memo.nodes[(key, context)]? = some found →
    ∀ path, c.types.Ancestry key path → key ∉ path → c.context key path = context →
      c.plainDigest c.hash key path = .digest found
  fingerprints : ∀ key found, memo.fingerprints[key]? = some found →
    ∃ root, c.plainDigest c.hash key [] = .digest root ∧ found = root.fingerprint

variable {c : Canonicalizer}

theorem sound_empty : c.Sound {} where
  nodes key context found stored := by simp at stored
  fingerprints key found stored := by simp at stored

/-- The number of steps has no part in what is remembered. -/
theorem Sound.withSteps {memo : Memo} (sound : c.Sound memo) (steps : Nat) :
    c.Sound { memo with steps := steps } :=
  ⟨sound.nodes, sound.fingerprints⟩

/-- A plain digest may be filed under its context, because it is the same on all paths with it. -/
theorem Sound.insertNode (faithful : c.Faithful) {memo : Memo} (sound : c.Sound memo) {key : String}
    {path : List String} {digest : NodeDigest} (ancestry : c.types.Ancestry key path)
    (fresh : key ∉ path) (plain : c.plainDigest c.hash key path = .digest digest) :
    c.Sound { memo with nodes := memo.nodes.insert (key, c.context key path) digest } where
  fingerprints := sound.fingerprints
  nodes key' context found stored other ancestry' fresh' same := by
    rw [Std.HashMap.getElem?_insert] at stored
    split at stored
    · next place =>
      obtain ⟨rfl, rfl⟩ := Prod.mk.inj (eq_of_beq place)
      obtain rfl := Option.some.inj stored
      rw [← plain]
      exact inline_eq_of_context_eq faithful _ ancestry' ancestry fresh' fresh same
    · exact sound.nodes key' context found stored other ancestry' fresh' same

theorem Sound.insertFingerprint {memo : Memo} (sound : c.Sound memo) {key : String}
    {root : NodeDigest} (plain : c.plainDigest c.hash key [] = .digest root) :
    c.Sound { memo with fingerprints := memo.fingerprints.insert key root.fingerprint } where
  nodes := sound.nodes
  fingerprints key' found stored := by
    rw [Std.HashMap.getElem?_insert] at stored
    split at stored
    · next same =>
      obtain rfl := eq_of_beq same
      exact ⟨root, plain, (Option.some.inj stored).symm⟩
    · exact sound.fingerprints key' found stored

open Resolution

theorem yields_countStep (key : String) (path : List String) :
    Yields c.Sound (c.countStep key path) () := by
  refine (yields_modify fun memo sound => sound.withSteps (memo.steps + 1)).bind ?_
  refine yields_get_bind fun memo _ => ?_
  split
  · exact yields_throw _ ()
  · exact yields_pure ()

/-- A remembered digest is the plain one, so that it may stand for what would be computed. -/
theorem yields_lookup {key : String} {path : List String} {plain : NodeDigest} (room : Nat)
    {otherwise : Resolution NodeDigest} (ancestry : c.types.Ancestry key path) (fresh : key ∉ path)
    (digest : c.plainDigest c.hash key path = .digest plain)
    (miss : Yields c.Sound otherwise plain) :
    Yields c.Sound (do
      match (← get).nodes[(key, c.context key path)]? with
      | some found => if room < found.height then throw (c.depthError key path) else return found
      | none => otherwise) plain := by
  refine yields_get_bind fun memo sound => ?_
  split
  · next found stored =>
    have remembered := sound.nodes key _ found stored path ancestry fresh rfl
    obtain rfl := ChildRef.digest.inj (digest.symm.trans remembered)
    split
    · exact yields_throw _ _
    · exact yields_pure _
  · exact miss

/-- What a node records about one of its references, with `room` levels left. -/
def childRef (c : Canonicalizer) (room : Nat) (reference : String) (path : List String) :
    Resolution ChildRef :=
  match path.idxOf? reference with
  | some above => pure (.recursive (above + 1))
  | none =>
    match c.find? reference with
    | none => pure (.unresolved reference)
    | some child => .digest <$> c.digest room reference child path

/-- What is recorded about a reference is right if the digest of its entry is. -/
theorem yields_childRef {room : Nat} {reference : String} {path : List String}
    (entry : ∀ child plain, c.find? reference = some child → reference ∉ path →
      c.plainDigest c.hash reference path = .digest plain →
        Yields c.Sound (c.digest room reference child path) plain) :
    Yields c.Sound (c.childRef room reference path) (c.plainDigest c.hash reference path) := by
  unfold childRef
  split
  · next above index =>
    rw [TypeScope.plainDigest_of_idxOf? index]
    exact yields_pure _
  · next unvisited =>
    have fresh : reference ∉ path := by simpa using unvisited
    split
    · next absent =>
      rw [TypeScope.plainDigest_of_absent fresh absent]
      exact yields_pure _
    · next child entered =>
      have plain : c.plainDigest c.hash reference path = .digest _ :=
        TypeScope.plainDigest_of_find? fresh entered
      rw [plain]
      exact (entry child _ entered fresh plain).map ChildRef.digest

/-- A digest that is given is the plain one, and what is remembered stays right in any case. -/
theorem yields_digest (faithful : c.Faithful) (room : Nat) {key : String}
    {definition : TypeDefinition} {path : List String} {plain : NodeDigest}
    (entered : c.find? key = some definition) (ancestry : c.types.Ancestry key path)
    (fresh : key ∉ path) (digest : c.plainDigest c.hash key path = .digest plain) :
    Yields c.Sound (c.digest room key definition path) plain := by
  -- The path grows by one reference for each level, so that it stays a path of ancestors.
  induction room generalizing key definition path plain with
  | zero =>
    rw [Canonicalizer.digest]
    refine yields_lookup 0 ancestry fresh digest ?_
    exact (yields_countStep key path).bind (yields_throw _ plain)
  | succ room ih =>
    rw [Canonicalizer.digest]
    refine yields_lookup (room + 1) ancestry fresh digest ?_
    refine (yields_countStep key path).bind ?_
    have below : plain = NodeDigest.ofNode c.hash (definition.node.map fun reference =>
        c.plainDigest c.hash reference (key :: path)) := by
      rw [TypeScope.plainDigest_of_find? fresh entered] at digest
      exact (ChildRef.digest.inj digest).symm
    have each : ∀ reference ∈ definition.node.references,
        Yields c.Sound (c.childRef room reference (key :: path))
          (c.plainDigest c.hash reference (key :: path)) := by
      intro reference member
      apply yields_childRef
      intro child plain' entered' below_fresh digest'
      have edge : c.types.Refers key reference :=
        ⟨definition, entered, (TypeDictionary.mem_references_node_iff _ _).1 member,
          Option.isSome_iff_exists.2 ⟨child, entered'⟩⟩
      exact ih entered' (ancestry.cons edge) below_fresh digest'
    refine (yields_replace each).bind ?_
    rw [← below]
    exact (yields_modify fun memo sound =>
      sound.insertNode faithful ancestry fresh digest).bind (yields_pure plain)

/-- The digest of which the start of the hash becomes the fingerprint of a key. -/
def rootDigest (c : Canonicalizer) (key : String) : Resolution NodeDigest :=
  match c.find? key with
  | none => throw (c.notFound key)
  | some definition => do
    modify fun memo => { memo with steps := 0 }
    c.digest maxTypeDepth key definition []

/-- A fingerprint is looked up first, and otherwise taken from the digest of its key. -/
theorem fingerprint_eq_rootDigest (key : String) : c.fingerprint key = (do
    match (← get).fingerprints[key]? with
    | some found => return found
    | none =>
      let root ← c.rootDigest key
      modify fun memo =>
        { memo with fingerprints := memo.fingerprints.insert key root.fingerprint }
      return root.fingerprint) := by
  unfold Canonicalizer.fingerprint rootDigest
  congr 1
  funext memo
  cases memo.fingerprints[key]? with
  | some found => rfl
  | none => cases c.find? key <;> rfl

/-- A root digest that is given is the plain one. -/
theorem yields_rootDigest (faithful : c.Faithful) {key : String} {root : NodeDigest}
    (digest : c.plainDigest c.hash key [] = .digest root) :
    Yields c.Sound (c.rootDigest key) root := by
  unfold rootDigest
  split
  · exact yields_throw _ _
  · next definition entered =>
    refine (yields_modify fun memo sound => sound.withSteps 0).bind ?_
    exact yields_digest faithful maxTypeDepth entered (TypeDictionary.ancestry_nil key) (by simp)
      digest

/-- A fingerprint that is given is the start of the plain hash. -/
theorem yields_fingerprint (faithful : c.Faithful) {key : String} {root : NodeDigest}
    (digest : c.plainDigest c.hash key [] = .digest root) :
    Yields c.Sound (c.fingerprint key) root.fingerprint := by
  rw [fingerprint_eq_rootDigest]
  refine yields_get_bind fun memo sound => ?_
  split
  · next found stored =>
    obtain ⟨root', digest', same⟩ := sound.fingerprints key found stored
    obtain rfl := ChildRef.digest.inj (digest.symm.trans digest')
    rw [same]
    exact yields_pure _
  · refine (yields_rootDigest faithful digest).bind ?_
    exact (yields_modify fun memo sound => sound.insertFingerprint digest).bind (yields_pure _)

end Canonicalizer
end StorageLayout
