import StorageLayout.Proofs.Fingerprint.Rules
import StorageLayout.Proofs.TypeDefinition.Recompilation
import StorageLayout.Proofs.TypeDefinition.Relabeling

/-!
# Runs under new keys

Where the keys of one scope correspond to those of another, each run on the first is mirrored by a
run on the second: they look up the same places under the new keys, count the same steps, and give
the same hashes, or fail with the same error about the new key.
-/
namespace StorageLayout

/-- The same error with another type key. -/
def LayoutError.mapKey (rename : String → String) : LayoutError → LayoutError
  | typeNotFound contract typeKey => .typeNotFound contract (rename typeKey)
  | typeDepthExceeded contract typeKey limit => .typeDepthExceeded contract (rename typeKey) limit
  | typeTooComplex contract typeKey limit => .typeTooComplex contract (rename typeKey) limit
  | invalidSlot contract name slot => .invalidSlot contract name slot
  | invalidOffset contract name offset => .invalidOffset contract name offset

theorem map_injOn {rename : String → String} {used : Set String} (injective : Set.InjOn rename used)
    {keys others : List String} (inside : ∀ key ∈ keys, key ∈ used)
    (inside' : ∀ key ∈ others, key ∈ used) (same : keys.map rename = others.map rename) :
    keys = others := by
  have unmapped : keys.map id = others.map id := map_eq_map_of_imp same
    fun key member other member' => injective (inside key member) (inside' other member')
  simpa using unmapped

namespace Canonicalizer

open Resolution TypeScope

variable {rename : String → String} {used : Set String} {c c' : Canonicalizer}

/-- Both compute with one hash function, on corresponding scopes with their tables of what is
reachable. -/
structure Mirrors (rename : String → String) (used : Set String) (c c' : Canonicalizer) : Prop where
  corresponds : Corresponds rename used c.toTypeScope c'.toTypeScope
  faithful : c.Faithful
  faithful' : c'.Faithful
  hash : c'.hash = c.hash

/-- The second memo has under the new keys what the first one has. -/
structure MemoMirrors (rename : String → String) (used : Set String) (memo memo' : Memo) :
    Prop where
  nodes : ∀ key ∈ used, ∀ context : List String, (∀ ancestor ∈ context, ancestor ∈ used) →
    memo'.nodes[(rename key, context.map rename)]? = memo.nodes[(key, context)]?
  fingerprints : ∀ key ∈ used, memo'.fingerprints[rename key]? = memo.fingerprints[key]?
  steps : memo'.steps = memo.steps

theorem memoMirrors_empty : MemoMirrors rename used {} {} where
  nodes _ _ _ _ := by simp
  fingerprints _ _ := by simp
  steps := rfl

theorem MemoMirrors.counted {memo memo' : Memo} (mirrors : MemoMirrors rename used memo memo') :
    MemoMirrors rename used memo.counted memo'.counted :=
  ⟨mirrors.nodes, mirrors.fingerprints, congrArg Nat.succ mirrors.steps⟩

theorem MemoMirrors.restarted {memo memo' : Memo} (mirrors : MemoMirrors rename used memo memo') :
    MemoMirrors rename used memo.restarted memo'.restarted :=
  ⟨mirrors.nodes, mirrors.fingerprints, rfl⟩

/-- A hash may be stored under corresponding places, as no two used keys have one new key. -/
theorem MemoMirrors.withNode (injective : Set.InjOn rename used) {memo memo' : Memo}
    (mirrors : MemoMirrors rename used memo memo') {key : String} {context : List String}
    (member : key ∈ used) (inside : ∀ ancestor ∈ context, ancestor ∈ used) (digest : NodeDigest) :
    MemoMirrors rename used (memo.withNode (key, context) digest)
      (memo'.withNode (rename key, context.map rename) digest) where
  fingerprints := mirrors.fingerprints
  steps := mirrors.steps
  nodes other member' context' inside' := by
    have same_place : ((rename key, context.map rename) == (rename other, context'.map rename)) =
        ((key, context) == (other, context')) := by
      rw [Bool.eq_iff_iff, beq_iff_eq, beq_iff_eq, Prod.mk.injEq, Prod.mk.injEq]
      constructor
      · rintro ⟨keys, contexts⟩
        exact ⟨injective member member' keys, map_injOn injective inside inside' contexts⟩
      · rintro ⟨rfl, rfl⟩
        exact ⟨rfl, rfl⟩
    rw [Memo.withNode, Memo.withNode, Std.HashMap.getElem?_insert, Std.HashMap.getElem?_insert,
      same_place, mirrors.nodes other member' context' inside']

theorem MemoMirrors.withFingerprint (injective : Set.InjOn rename used) {memo memo' : Memo}
    (mirrors : MemoMirrors rename used memo memo') {key : String} (member : key ∈ used)
    (fingerprint : String) :
    MemoMirrors rename used (memo.withFingerprint key fingerprint)
      (memo'.withFingerprint (rename key) fingerprint) where
  nodes := mirrors.nodes
  steps := mirrors.steps
  fingerprints other member' := by
    have same_key : (rename key == rename other) = (key == other) := by
      rw [Bool.eq_iff_iff, beq_iff_eq, beq_iff_eq]
      exact ⟨injective member member', congrArg rename⟩
    rw [Memo.withFingerprint, Memo.withFingerprint, Std.HashMap.getElem?_insert,
      Std.HashMap.getElem?_insert, same_key, mirrors.fingerprints other member']

theorem Mirrors.reaches (mirrors : Mirrors rename used c c') {key target : String}
    (member : key ∈ used) (member' : target ∈ used) :
    c'.reaches (rename key) (rename target) = c.reaches key target := by
  rw [Bool.eq_iff_iff, mirrors.faithful, mirrors.faithful']
  exact mirrors.corresponds.leadsTo_iff member member'

theorem Mirrors.context (mirrors : Mirrors rename used c c') {key : String} {path : List String}
    (member : key ∈ used) (inside : ∀ ancestor ∈ path, ancestor ∈ used) :
    c'.context (rename key) (path.map rename) = (c.context key path).map rename := by
  unfold Canonicalizer.context
  induction path with
  | nil => rfl
  | cons ancestor rest ih =>
    have tail := ih fun other listed => inside other (by simp [listed])
    rw [List.map_cons, List.takeWhile_cons, List.takeWhile_cons, tail,
      mirrors.reaches member (inside ancestor (by simp))]
    cases c.reaches key ancestor <;> rfl

theorem rootOf_map (key : String) (path : List String) :
    rootOf (rename key) (path.map rename) = rename (rootOf key path) := by
  induction path generalizing key with
  | nil => rfl
  | cons ancestor rest ih =>
    rw [rootOf, rootOf, List.map_cons, List.getLastD_cons, List.getLastD_cons]
    exact ih ancestor

theorem Mirrors.depthError (mirrors : Mirrors rename used c c') (key : String)
    (path : List String) :
    c'.depthError (rename key) (path.map rename) = (c.depthError key path).mapKey rename := by
  rw [TypeScope.depthError, TypeScope.depthError, mirrors.corresponds.contract, rootOf_map]
  rfl

theorem Mirrors.stepsError (mirrors : Mirrors rename used c c') (key : String)
    (path : List String) :
    c'.stepsError (rename key) (path.map rename) = (c.stepsError key path).mapKey rename := by
  rw [Canonicalizer.stepsError, Canonicalizer.stepsError, mirrors.corresponds.contract, rootOf_map]
  rfl

/-- Two computations run alike under the new keys. -/
abbrev RunsAlike {α β : Type} (rename : String → String) (used : Set String) (V : α → β → Prop)
    (x : Resolution α) (y : Resolution β) : Prop :=
  Tracks (MemoMirrors rename used) (fun e e' => e' = e.mapKey rename) (fun _ => False) V x y

/-- A reference is recorded alike if it is followed alike. -/
theorem Mirrors.childRef (mirrors : Mirrors rename used c c') {room : Nat} {reference : String}
    {path : List String} (member : reference ∈ used)
    (inside : ∀ ancestor ∈ path, ancestor ∈ used)
    (below : reference ∉ path → ∀ child child', c.find? reference = some child →
      c'.find? (rename reference) = some child' → child'.node = child.node.map rename →
        RunsAlike rename used Eq (c.digest room reference child path)
          (c'.digest room (rename reference) child' (path.map rename))) :
    RunsAlike rename used Eq (c.childRef room reference path)
      (c'.childRef room (rename reference) (path.map rename)) := by
  have injective := mirrors.corresponds.injective
  have index : (path.map rename).idxOf? (rename reference) = path.idxOf? reference :=
    idxOf?_map fun ancestor listed same => injective (inside ancestor listed) member same
  rcases kind_of_reference c.toTypeScope reference path with
    ⟨above, found⟩ | ⟨fresh, absent⟩ | ⟨fresh, child, entered⟩
  · rw [childRef_of_idxOf? found, childRef_of_idxOf? (index.trans found)]
    exact tracks_pure rfl
  · obtain ⟨kept, absent'⟩ := mirrors.corresponds.absent reference member absent
    have fresh' : rename reference ∉ path.map rename := by
      rw [← List.idxOf?_eq_none_iff, index]
      exact List.idxOf?_eq_none_iff.2 fresh
    rw [← kept] at absent'
    rw [childRef_of_absent fresh absent, childRef_of_absent fresh' absent', kept]
    exact tracks_pure rfl
  · obtain ⟨child', entered', node⟩ := mirrors.corresponds.entry reference member child entered
    have fresh' : rename reference ∉ path.map rename := by
      rw [← List.idxOf?_eq_none_iff, index]
      exact List.idxOf?_eq_none_iff.2 fresh
    rw [childRef_of_find? fresh entered, childRef_of_find? fresh' entered']
    exact (below fresh child child' entered entered' node).map fun _ _ same => congrArg _ same

/-- Both memos have the digest, or it is still to be computed on both. -/
theorem Mirrors.digest_of_missing (mirrors : Mirrors rename used c c') {room : Nat} {key : String}
    {definition definition' : TypeDefinition} {path : List String} (member : key ∈ used)
    (inside : ∀ ancestor ∈ path, ancestor ∈ used)
    (missed : ∀ memo memo', MemoMirrors rename used memo memo' →
      memo.nodes[(key, c.context key path)]? = none →
      memo'.nodes[(rename key, c'.context (rename key) (path.map rename))]? = none →
      memo.steps < maxResolveSteps →
      Agree (MemoMirrors rename used) (fun e e' => e' = e.mapKey rename)
        (fun _ => False) Eq ((c.digest room key definition path).run memo)
        ((c'.digest room (rename key) definition' (path.map rename)).run memo')) :
    RunsAlike rename used Eq (c.digest room key definition path)
      (c'.digest room (rename key) definition' (path.map rename)) := by
  intro memo memo' mirrored
  have places : memo'.nodes[(rename key, c'.context (rename key) (path.map rename))]? =
      memo.nodes[(key, c.context key path)]? := by
    rw [mirrors.context member inside]
    refine mirrored.nodes key member _ fun ancestor listed => inside ancestor ?_
    exact (List.takeWhile_sublist _).subset listed
  cases stored : memo.nodes[(key, c.context key path)]? with
  | some found =>
    rw [run_digest_of_remembered stored, run_digest_of_remembered (places.trans stored)]
    split
    · exact Or.inr (mirrors.depthError key path)
    · exact ⟨rfl, mirrored⟩
  | none =>
    by_cases left : memo.steps < maxResolveSteps
    · exact missed memo memo' mirrored stored (places.trans stored) left
    · have left' : ¬ memo'.steps < maxResolveSteps := mirrored.steps ▸ left
      rw [run_digest_of_spent stored left, run_digest_of_spent (places.trans stored) left']
      exact Or.inr (mirrors.stepsError key path)

/-- Digests are computed alike. -/
theorem Mirrors.digest (mirrors : Mirrors rename used c c') (room : Nat) {key : String}
    {definition definition' : TypeDefinition} {path : List String} (member : key ∈ used)
    (inside : ∀ ancestor ∈ path, ancestor ∈ used) (entered : c.find? key = some definition)
    (node : definition'.node = definition.node.map rename) :
    RunsAlike rename used Eq (c.digest room key definition path)
      (c'.digest room (rename key) definition' (path.map rename)) := by
  induction room generalizing key definition definition' path with
  | zero =>
    refine mirrors.digest_of_missing member inside ?_
    intro memo memo' mirrored stored stored' left
    have left' : memo'.steps < maxResolveSteps := mirrored.steps ▸ left
    rw [run_digest_zero stored left, run_digest_zero stored' left']
    exact Or.inr (mirrors.depthError key path)
  | succ room ih =>
    refine mirrors.digest_of_missing member inside ?_
    intro memo memo' mirrored stored stored' left
    have left' : memo'.steps < maxResolveSteps := mirrored.steps ▸ left
    have inside_here : ∀ ancestor ∈ key :: path, ancestor ∈ used :=
      List.forall_mem_cons.2 ⟨member, inside⟩
    have each : List.Forall₂ (fun reference reference' => RunsAlike rename used Eq
        (c.childRef room reference (key :: path))
        (c'.childRef room reference' ((key :: path).map rename)))
        definition.node.references definition'.node.references := by
      rw [node, TypeNode.references_map, List.forall₂_map_right_iff, List.forall₂_same]
      intro reference listed
      have member' := mirrors.corresponds.closed key member definition entered reference
        ((TypeDictionary.mem_references_node_iff _ _).1 listed)
      exact mirrors.childRef member' inside_here fun _ child child' entered' _ node' =>
        ih member' inside_here entered' node'
    have skeletons : definition.node.skeleton = definition'.node.skeleton := by
      rw [node, TypeNode.skeleton_map]
    have ran := Tracks.replace skeletons (Tracks.mapM each) memo.counted memo'.counted
      mirrored.counted
    have context := mirrors.context member inside
    have inside_context : ∀ ancestor ∈ c.context key path, ancestor ∈ used := fun ancestor listed =>
      inside ancestor ((List.takeWhile_sublist _).subset listed)
    rw [run_digest_succ stored left, run_digest_succ stored' left', mirrors.hash, context]
    rw [List.map_cons] at ran
    generalize (definition.node.replace (c.childRef room · (key :: path))).run memo.counted =
      outcome at ran ⊢
    generalize (definition'.node.replace
      (c'.childRef room · (rename key :: path.map rename))).run memo'.counted = outcome' at ran ⊢
    rcases outcome with ⟨e | n, after⟩ <;> rcases outcome' with ⟨e' | n', after'⟩
    · exact ran
    · exact ran
    · exact ran
    · obtain ⟨rfl, mirrored'⟩ := ran
      exact ⟨rfl, mirrored'.withNode mirrors.corresponds.injective member inside_context _⟩

/-- Fingerprints are computed alike. -/
theorem Mirrors.fingerprint (mirrors : Mirrors rename used c c') {key : String}
    (member : key ∈ used) :
    RunsAlike rename used Eq (c.fingerprint key) (c'.fingerprint (rename key)) := by
  intro memo memo' mirrored
  have same := mirrored.fingerprints key member
  cases stored : memo.fingerprints[key]? with
  | some found =>
    rw [run_fingerprint_of_remembered stored, run_fingerprint_of_remembered (same.trans stored)]
    exact ⟨rfl, mirrored⟩
  | none =>
    cases entered : c.find? key with
    | none =>
      obtain ⟨kept, absent'⟩ := mirrors.corresponds.absent key member entered
      rw [← kept] at absent'
      rw [run_fingerprint_of_missing stored entered,
        run_fingerprint_of_missing (same.trans stored) absent']
      refine Or.inr ?_
      rw [TypeScope.notFound, TypeScope.notFound, mirrors.corresponds.contract]
      rfl
    | some definition =>
      obtain ⟨definition', entered', node⟩ :=
        mirrors.corresponds.entry key member definition entered
      have ran := mirrors.digest maxTypeDepth member (List.forall_mem_nil _) entered node
        memo.restarted memo'.restarted mirrored.restarted
      rw [run_fingerprint_of_find? stored entered,
        run_fingerprint_of_find? (same.trans stored) entered']
      rw [List.map_nil] at ran
      generalize (c.digest maxTypeDepth key definition []).run memo.restarted = outcome at ran ⊢
      generalize (c'.digest maxTypeDepth (rename key) definition' []).run memo'.restarted = outcome'
        at ran ⊢
      rcases outcome with ⟨e | root, after⟩ <;> rcases outcome' with ⟨e' | root', after'⟩
      · exact ran
      · exact ran
      · exact ran
      · obtain ⟨rfl, mirrored'⟩ := ran
        exact ⟨rfl, mirrored'.withFingerprint mirrors.corresponds.injective member _⟩

/-- Fingerprints with nothing remembered are the same, up to the key that an error names. -/
theorem Mirrors.freshFingerprint (mirrors : Mirrors rename used c c') {key : String}
    (member : key ∈ used) :
    c'.freshFingerprint (rename key) =
      (c.freshFingerprint key).mapError (LayoutError.mapKey rename) := by
  have ran := mirrors.fingerprint member {} {} memoMirrors_empty
  rw [Canonicalizer.freshFingerprint, Canonicalizer.freshFingerprint]
  generalize (c.fingerprint key).run {} = outcome at ran ⊢
  generalize (c'.fingerprint (rename key)).run {} = outcome' at ran ⊢
  rcases outcome with ⟨e | found, after⟩ <;> rcases outcome' with ⟨e' | found', after'⟩
  · obtain rfl := ran.resolve_left id
    rfl
  · exact ran.elim
  · exact ran.elim
  · obtain ⟨rfl, -⟩ := ran
    rfl

end Canonicalizer
end StorageLayout
