import StorageLayout.Proofs.Fingerprint.Places
import StorageLayout.Proofs.Fingerprint.Rules
import StorageLayout.Proofs.TypeDefinition.Shape

/-!
# What a digest leaves behind

Computing the hash of a place stores it together with the hashes of all places below it, and nothing
else; one step is counted for each hash that is stored and for each that is still open when the run
fails. The answer is the plain digest if its levels fit into the room, and otherwise the error about
depth, unless the steps run out first.
-/
namespace StorageLayout.Canonicalizer

open Resolution Stateful

/-- A memo grows inside a region. One step is counted for each hash that is added, and for each of
those left unfinished. -/
structure Progress (region : Place → Prop) (unfinished : Nat) (before after : Memo) : Prop where
  kept : ∀ place ∈ before.nodes, place ∈ after.nodes
  within : ∀ place ∈ after.nodes, place ∈ before.nodes ∨ region place
  later : before.steps ≤ after.steps
  counted : after.steps + before.nodes.size = after.nodes.size + before.steps + unfinished

namespace Progress

variable {region : Place → Prop} {unfinished rest : Nat} {before middle after : Memo}

theorem refl (memo : Memo) : Progress region 0 memo memo where
  kept _ member := member
  within _ member := Or.inl member
  later := Nat.le_refl _
  counted := by omega

theorem trans (first : Progress region unfinished before middle)
    (second : Progress region rest middle after) :
    Progress region (unfinished + rest) before after where
  kept place member := second.kept place (first.kept place member)
  within place member := (second.within place member).elim (first.within place) Or.inr
  later := Nat.le_trans first.later second.later
  counted := by
    have := first.counted
    have := second.counted
    omega

theorem widen {region' : Place → Prop} (progress : Progress region unfinished before after)
    (wider : ∀ place, region place → region' place) :
    Progress region' unfinished before after where
  kept := progress.kept
  within place member := (progress.within place member).imp_right (wider place)
  later := progress.later
  counted := progress.counted

theorem count (memo : Memo) : Progress region 1 memo memo.counted where
  kept _ member := member
  within _ member := Or.inl member
  later := Nat.le_succ _
  counted := by
    simp only [Memo.counted]
    omega

/-- The hash that was left unfinished is stored. -/
theorem store {place : Place} (digest : NodeDigest) (progress : Progress region 1 before after)
    (inside : region place) (new : place ∉ after.nodes) :
    Progress region 0 before (after.withNode place digest) where
  kept other member := Std.HashMap.mem_insert.2 (Or.inr (progress.kept other member))
  within other member := by
    rcases Std.HashMap.mem_insert.1 member with same | member
    · exact Or.inr (eq_of_beq same ▸ inside)
    · exact progress.within other member
  later := progress.later
  counted := by
    have counted := progress.counted
    simp only [Memo.withNode, Std.HashMap.size_insert, new, if_false]
    omega

end Progress

variable {c : Canonicalizer}

/-- Nothing wrong is remembered, and the steps have not run out. -/
def Affordable (c : Canonicalizer) (memo : Memo) : Prop :=
  c.Consistent memo ∧ memo.steps ≤ maxResolveSteps

/-- A failure for want of room or of steps, with as many hashes unfinished as there are levels. -/
def Fails (c : Canonicalizer) (key : String) (path : List String) (region : Place → Prop)
    (room : Nat) (deep : Prop) (before : Memo) (e : LayoutError) (after : Memo) : Prop :=
  c.Consistent after ∧ (∃ unfinished ≤ room + 1, Progress region unfinished before after) ∧
    (e = c.depthError key path ∧ deep ∨ e = c.stepsError key path ∧ maxResolveSteps < after.steps)

/-- The ways in which the digest of a key may end when the plain digest is known. -/
def DigestEnds (c : Canonicalizer) (room : Nat) (key : String) (path : List String)
    (plain : NodeDigest) : Memo → Except LayoutError NodeDigest × Memo → Prop :=
  Ends c.Affordable (Progress (c.Below key path) 0)
    (fun found memo => found = plain ∧ plain.height ≤ room ∧ (key, c.context key path) ∈ memo.nodes)
    (c.Fails key path (c.Below key path) room (room < plain.height))

/-- The ways in which what an entry records about a reference may end. -/
def ChildEnds (c : Canonicalizer) (room : Nat) (key : String) (path : List String)
    (deep : Prop) (reference : String) : Memo → Except LayoutError ChildRef × Memo → Prop :=
  Ends c.Affordable (Progress (c.Inside key path) 0)
    (fun value memo => value = c.plainDigest c.hash reference (key :: path) ∧
      (c.plainDigest c.hash reference (key :: path)).height ≤ room ∧
      (c.types.Refers key reference → reference ∉ key :: path →
        (reference, c.context reference (key :: path)) ∈ memo.nodes))
    (c.Fails key path (c.Inside key path) room deep)

theorem depthError_cons (key reference : String) (path : List String) :
    c.depthError reference (key :: path) = c.depthError key path := by
  rw [TypeScope.depthError, TypeScope.rootOf, List.getLastD_cons]
  rfl

theorem stepsError_cons (key reference : String) (path : List String) :
    c.stepsError reference (key :: path) = c.stepsError key path := by
  rw [stepsError, TypeScope.rootOf, List.getLastD_cons]
  rfl

/-- A reference ends as its digest does. It is too deep only if the room is less than its height. -/
theorem childEnds {room : Nat} {key reference : String} {path : List String} {deep : Prop}
    (edge : c.types.contains reference → c.types.Refers key reference)
    (too_deep : room < (c.plainDigest c.hash reference (key :: path)).height → deep)
    (below : ∀ child plain, c.find? reference = some child → reference ∉ key :: path →
      c.plainDigest c.hash reference (key :: path) = .digest plain →
        ∀ memo, c.Affordable memo → c.DigestEnds room reference (key :: path) plain memo
          ((c.digest room reference child (key :: path)).run memo))
    (memo : Memo) (affordable : c.Affordable memo) :
    c.ChildEnds room key path deep reference memo
      ((c.childRef room reference (key :: path)).run memo) := by
  rcases TypeScope.kind_of_reference c.toTypeScope reference (key :: path) with
    ⟨above, found⟩ | ⟨fresh, absent⟩ | ⟨fresh, child, entered⟩
  · have visited : reference ∈ key :: path := by
      by_contra fresh
      simp [List.idxOf?_eq_none_iff.2 fresh] at found
    rw [childRef_of_idxOf? found]
    have plain : c.plainDigest c.hash reference (key :: path) = .recursive (above + 1) :=
      TypeScope.plainDigest_of_idxOf? found
    exact ⟨affordable, .refl memo, plain.symm, plain ▸ Nat.zero_le room,
      fun _ fresh => absurd visited fresh⟩
  · rw [childRef_of_absent fresh absent]
    have plain : c.plainDigest c.hash reference (key :: path) = .unresolved reference :=
      TypeScope.plainDigest_of_absent fresh absent
    refine ⟨affordable, .refl memo, plain.symm, plain ▸ Nat.zero_le room, fun edge _ => ?_⟩
    obtain ⟨definition, entered⟩ := Option.isSome_iff_exists.1 edge.contains_target
    exact nomatch absent.symm.trans entered
  · have plain : c.plainDigest c.hash reference (key :: path) = .digest _ :=
      TypeScope.plainDigest_of_find? fresh entered
    have edge := edge (Option.isSome_iff_exists.2 ⟨child, entered⟩)
    have inside (place : Place) : c.Below reference (key :: path) place → c.Inside key path place :=
      Below.inside edge fresh
    have ran := below child _ entered fresh plain memo affordable
    rw [childRef_of_find? fresh entered, run_map]
    generalize (c.digest room reference child (key :: path)).run memo = outcome at ran ⊢
    rcases outcome with ⟨e | found, after⟩
    · obtain ⟨consistent, ⟨unfinished, few, progress⟩, failure⟩ := ran
      refine ⟨consistent, ⟨unfinished, few, progress.widen inside⟩, ?_⟩
      rw [depthError_cons, stepsError_cons] at failure
      exact failure.imp_left fun ⟨error, high⟩ => ⟨error, too_deep (plain ▸ high)⟩
    · obtain ⟨kept, progress, rfl, low, stored⟩ := ran
      exact ⟨kept, progress.widen inside, plain.symm, plain ▸ low, fun _ _ => stored⟩

/-- A digest is remembered, or the steps have run out, or it is still to be computed. -/
theorem digestEnds_of_missing {room : Nat} {key : String} {definition : TypeDefinition}
    {path : List String} {plain : NodeDigest} (ancestry : c.types.Ancestry key path)
    (fresh : key ∉ path) (digest : c.plainDigest c.hash key path = .digest plain)
    (missed : ∀ memo, c.Consistent memo → memo.nodes[(key, c.context key path)]? = none →
      memo.steps < maxResolveSteps →
        c.DigestEnds room key path plain memo ((c.digest room key definition path).run memo))
    (memo : Memo) (affordable : c.Affordable memo) :
    c.DigestEnds room key path plain memo ((c.digest room key definition path).run memo) := by
  have consistent := affordable.1
  cases stored : memo.nodes[(key, c.context key path)]? with
  | some found =>
    have remembered := consistent.nodes key _ found stored path ancestry fresh rfl
    obtain rfl := ChildRef.digest.inj (digest.symm.trans remembered)
    rw [run_digest_of_remembered stored]
    split
    · next deep =>
      exact ⟨consistent, ⟨0, by omega, .refl memo⟩, Or.inl ⟨rfl, deep⟩⟩
    · next low =>
      have member : (key, c.context key path) ∈ memo.nodes :=
        Std.HashMap.mem_iff_isSome_getElem?.2 (by rw [stored]; rfl)
      exact ⟨affordable, .refl memo, rfl, by omega, member⟩
  | none =>
    by_cases left : memo.steps < maxResolveSteps
    · exact missed memo consistent stored left
    · rw [run_digest_of_spent stored left]
      have spent : maxResolveSteps < memo.counted.steps := by
        simp only [Memo.counted]
        omega
      exact ⟨consistent.counted, ⟨1, by omega, .count memo⟩, Or.inr ⟨rfl, spent⟩⟩

/-- A place that is missing stays so while the places inside it are computed. -/
theorem Progress.not_mem_of_inside {key : String} {path : List String} {unfinished : Nat}
    {before after : Memo} (progress : Progress (c.Inside key path) unfinished before after)
    (missing : (key, c.context key path) ∉ before.nodes) :
    (key, c.context key path) ∉ after.nodes := by
  intro member
  rcases progress.within _ member with earlier | ⟨last, above, -, -, other, place⟩
  · exact missing earlier
  · exact other (Prod.mk.inj place).1.symm

/-- The references of an entry are recorded as the plain digests of what they refer to, and what is
stored for them suffices to store the entry. -/
theorem digestEnds_succ (faithful : c.Faithful) {room : Nat} {key : String}
    {definition : TypeDefinition} {path : List String} {plain : NodeDigest} {memo : Memo}
    (entered : c.find? key = some definition) (ancestry : c.types.Ancestry key path)
    (fresh : key ∉ path) (digest : c.plainDigest c.hash key path = .digest plain)
    (each : ∀ reference ∈ definition.node.references, ∀ memo, c.Affordable memo →
      c.ChildEnds room key path (room + 1 < plain.height) reference memo
        ((c.childRef room reference (key :: path)).run memo))
    (consistent : c.Consistent memo) (missing : memo.nodes[(key, c.context key path)]? = none)
    (left : memo.steps < maxResolveSteps) :
    c.DigestEnds (room + 1) key path plain memo
      ((c.digest (room + 1) key definition path).run memo) := by
  have listed := Ensures.mapM (I := c.Affordable) (T := Progress (c.Inside key path) 0)
    (F := c.Fails key path (c.Inside key path) room (room + 1 < plain.height))
    Progress.refl (fun _ _ _ => Progress.trans)
    (fun _ _ _ _ first ⟨consistent, ⟨unfinished, few, progress⟩, failure⟩ =>
      ⟨consistent, ⟨0 + unfinished, by omega, first.trans progress⟩, failure⟩)
    (fun _ _ _ _ step ⟨value, low, stored⟩ =>
      ⟨value, low, fun edge unvisited => step.kept _ (stored edge unvisited)⟩)
    each
  have ran := listed.replace memo.counted ⟨consistent.counted, left⟩
  rw [run_digest_succ missing left]
  generalize (definition.node.replace (c.childRef room · (key :: path))).run memo.counted = outcome
    at ran ⊢
  have inside (place : Place) : c.Inside key path place → c.Below key path place := Inside.below
  rcases outcome with ⟨e | node, after⟩
  · obtain ⟨consistent', ⟨unfinished, few, progress⟩, failure⟩ := ran
    have progress' := (Progress.count memo).trans (progress.widen inside)
    exact ⟨consistent', ⟨1 + unfinished, by omega, progress'⟩, failure⟩
  · obtain ⟨⟨consistent', within⟩, progress, skeleton, values⟩ := ran
    obtain ⟨references, stored⟩ := forall₂_known.1 values
    have same := TypeNode.eq_map_of_references_eq skeleton references
    have result : NodeDigest.ofNode c.hash node = plain := by
      rw [TypeScope.plainDigest_of_find? fresh entered] at digest
      rw [same]
      exact ChildRef.digest.inj digest
    have low : plain.height ≤ room + 1 := by
      rw [← result, NodeDigest.height_ofNode_le, same, TypeNode.references_map]
      intro value member
      obtain ⟨reference, listed, rfl⟩ := List.mem_map.1 member
      exact (stored reference listed).1
    have unstored : (key, c.context key path) ∉ memo.counted.nodes := by
      simp [Std.HashMap.mem_iff_isSome_getElem?, Memo.counted, missing]
    have new := progress.not_mem_of_inside unstored
    have children : ∀ reference, c.types.Refers key reference → reference ∉ key :: path →
        (reference, c.context reference (key :: path)) ∈ after.nodes := by
      rintro reference ⟨definition', entered', listed, entry⟩ unvisited
      obtain rfl := Option.some.inj (entered.symm.trans entered')
      have listed' := (TypeDictionary.mem_references_node_iff _ _).2 listed
      exact (stored reference listed').2 ⟨definition, entered, listed, entry⟩ unvisited
    dsimp only
    rw [result]
    refine ⟨⟨consistent'.withNode faithful ancestry fresh digest children, within⟩, ?_, rfl, low,
      ?_⟩
    · exact ((Progress.count memo).trans (progress.widen inside)).store plain
        ⟨key, path, .here, rfl⟩ new
    · exact Std.HashMap.mem_insert.2 (Or.inl (beq_self_eq_true _))

/-- By induction on the room: what the digest of a key does to the memo, and how it may end. -/
theorem digestEnds (faithful : c.Faithful) (room : Nat) {key : String}
    {definition : TypeDefinition} {path : List String} {plain : NodeDigest}
    (entered : c.find? key = some definition) (ancestry : c.types.Ancestry key path)
    (fresh : key ∉ path) (digest : c.plainDigest c.hash key path = .digest plain) (memo : Memo)
    (affordable : c.Affordable memo) :
    c.DigestEnds room key path plain memo ((c.digest room key definition path).run memo) := by
  have below := digest
  rw [TypeScope.plainDigest_of_find? fresh entered, ChildRef.digest.injEq] at below
  -- The path grows by one reference for each level, as the room shrinks.
  induction room generalizing key definition path plain memo with
  | zero =>
    refine digestEnds_of_missing ancestry fresh digest (fun memo consistent missing left => ?_) memo
      affordable
    have positive : 0 < plain.height := by
      rw [← below]
      exact Nat.succ_pos _
    rw [run_digest_zero missing left]
    exact ⟨consistent.counted, ⟨1, by omega, .count memo⟩, Or.inl ⟨rfl, positive⟩⟩
  | succ room ih =>
    refine digestEnds_of_missing ancestry fresh digest (fun memo consistent missing left => ?_) memo
      affordable
    refine digestEnds_succ faithful entered ancestry fresh digest ?_ consistent missing left
    intro reference listed
    have edge (entry : c.types.contains reference) : c.types.Refers key reference :=
      ⟨definition, entered, (TypeDictionary.mem_references_node_iff _ _).1 listed, entry⟩
    apply childEnds edge
    · intro high
      rw [← below, ← Nat.not_le, NodeDigest.height_ofNode_le, TypeNode.references_map]
      intro low
      exact absurd (low _ (List.mem_map_of_mem listed)) (by omega)
    · intro child plain' entered' unvisited digest' memo' affordable'
      have below' := digest'
      rw [TypeScope.plainDigest_of_find? unvisited entered', ChildRef.digest.injEq] at below'
      exact ih entered' (ancestry.cons (edge (Option.isSome_iff_exists.2 ⟨child, entered'⟩)))
        unvisited digest' memo' affordable' below'

end StorageLayout.Canonicalizer
