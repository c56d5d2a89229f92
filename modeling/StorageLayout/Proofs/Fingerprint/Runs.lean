import StorageLayout.Proofs.Fingerprint.Memo
import StorageLayout.Proofs.TypeDefinition.Traversal

/-!
# What a run does

Each computation on a memo is given by one equation for its run: what it answers, and what it leaves
behind. A digest is remembered or computed; if it is computed, a step is counted, the references of
the entry are recorded one after another, and the result is stored. A failure on the way ends the
run, but what was stored until then stays.
-/
namespace StorageLayout

/-- The memo with one more hash counted. -/
def Memo.counted (memo : Memo) : Memo := { memo with steps := memo.steps + 1 }

/-- The memo before the first hash of a fingerprint. -/
def Memo.restarted (memo : Memo) : Memo := { memo with steps := 0 }

def Memo.withNode (memo : Memo) (place : String × List String) (digest : NodeDigest) : Memo :=
  { memo with nodes := memo.nodes.insert place digest }

def Memo.withFingerprint (memo : Memo) (key fingerprint : String) : Memo :=
  { memo with fingerprints := memo.fingerprints.insert key fingerprint }

namespace Resolution

open Stateful

variable {ρ σ : Type} {f : ρ → Resolution σ} {n : TypeNode ρ} {memo : Memo}

/-- A node is replaced as the list of its references is. -/
theorem run_replace (f : ρ → Resolution σ) (n : TypeNode ρ) (memo : Memo) :
    match (n.references.mapM f).run memo with
      | (.ok references, after) => ∃ node : TypeNode σ, (n.replace f).run memo = (.ok node, after) ∧
          node.skeleton = n.skeleton ∧ node.references = references
      | (.error e, after) => (n.replace f).run memo = (.error e, after) := by
  have same := congrArg (fun x : Resolution _ => x.run memo) (TypeNode.replace_eq_mapM f n)
  simp only [run_map] at same
  generalize (n.references.mapM f).run memo = by_list at same ⊢
  generalize (n.replace f).run memo = by_node at same ⊢
  rcases by_list with ⟨e | references, after⟩ <;> rcases by_node with ⟨e' | node, after'⟩ <;>
    obtain ⟨outcome, rfl⟩ := Prod.mk.inj same
  · obtain rfl := Except.error.inj outcome
    rfl
  · cases outcome
  · cases outcome
  · obtain ⟨skeleton, listed⟩ := Prod.mk.inj (Except.ok.inj outcome)
    exact ⟨node, rfl, skeleton, listed⟩

end Resolution

namespace Canonicalizer

open Resolution Stateful

variable {c : Canonicalizer} {room : Nat} {key : String} {definition : TypeDefinition}
  {path : List String} {memo : Memo}

/-- A step is counted also when it is the one that is too many. -/
theorem run_countStep (key : String) (path : List String) (memo : Memo) :
    (c.countStep key path).run memo =
      if memo.steps < maxResolveSteps then (.ok (), memo.counted)
      else (.error (c.stepsError key path), memo.counted) := by
  rw [countStep, run_bind, run_modify]
  dsimp only
  rw [run_bind, run_get]
  by_cases left : memo.steps < maxResolveSteps
  · have within : ¬ maxResolveSteps < memo.steps + 1 := by omega
    simp only [within, left, if_false, if_true]
    rfl
  · have beyond : maxResolveSteps < memo.steps + 1 := by omega
    simp only [beyond, left, if_true, if_false, run_throw]
    rfl

theorem run_digest_of_remembered {found : NodeDigest}
    (stored : memo.nodes[(key, c.context key path)]? = some found) :
    (c.digest room key definition path).run memo =
      if room < found.height then (.error (c.depthError key path), memo)
      else (.ok found, memo) := by
  rw [Canonicalizer.digest.eq_def, run_bind, run_get]
  simp only [stored]
  split <;> rfl

theorem run_digest_of_spent (missing : memo.nodes[(key, c.context key path)]? = none)
    (spent : ¬ memo.steps < maxResolveSteps) :
    (c.digest room key definition path).run memo =
      (.error (c.stepsError key path), memo.counted) := by
  cases room with
  | zero =>
    rw [Canonicalizer.digest, run_bind, run_get]
    simp only [missing, run_bind, run_countStep, spent, if_false]
  | succ room =>
    rw [Canonicalizer.digest, run_bind, run_get]
    simp only [missing, run_bind, run_countStep, spent, if_false]

theorem run_digest_zero (missing : memo.nodes[(key, c.context key path)]? = none)
    (left : memo.steps < maxResolveSteps) :
    (c.digest 0 key definition path).run memo =
      (.error (c.depthError key path), memo.counted) := by
  rw [Canonicalizer.digest, run_bind, run_get]
  simp only [missing, run_bind, run_countStep, left, if_true, run_throw]

theorem digest_succ : c.digest (room + 1) key definition path = (do
    match (← get).nodes[(key, c.context key path)]? with
    | some found =>
      if room + 1 < found.height then throw (c.depthError key path) else return found
    | none =>
      c.countStep key path
      let node ← definition.node.replace (c.childRef room · (key :: path))
      modify (·.withNode (key, c.context key path) (.ofNode c.hash node))
      return .ofNode c.hash node) := by
  rw [Canonicalizer.digest]
  rfl

theorem run_digest_succ (missing : memo.nodes[(key, c.context key path)]? = none)
    (left : memo.steps < maxResolveSteps) :
    (c.digest (room + 1) key definition path).run memo =
      match (definition.node.replace (c.childRef room · (key :: path))).run memo.counted with
      | (.ok node, after) => (.ok (.ofNode c.hash node),
          after.withNode (key, c.context key path) (.ofNode c.hash node))
      | (.error e, after) => (.error e, after) := by
  rw [digest_succ, run_bind, run_get]
  simp only [missing, run_bind, run_countStep, left, if_true]
  rcases (definition.node.replace (c.childRef room · (key :: path))).run memo.counted with
    ⟨_ | node, after⟩ <;> rfl

section References

variable {reference : String} {above : Nat}

theorem childRef_of_idxOf? (found : path.idxOf? reference = some above) :
    c.childRef room reference path = pure (.recursive (above + 1)) := by
  rw [childRef, found]

theorem childRef_of_absent (fresh : reference ∉ path) (absent : c.find? reference = none) :
    c.childRef room reference path = pure (.unresolved reference) := by
  have unvisited : path.idxOf? reference = none := by simpa using fresh
  rw [childRef, unvisited]
  simp only [absent]

theorem childRef_of_find? (fresh : reference ∉ path)
    (entered : c.find? reference = some definition) :
    c.childRef room reference path =
      ChildRef.digest <$> c.digest room reference definition path := by
  have unvisited : path.idxOf? reference = none := by simpa using fresh
  rw [childRef, unvisited]
  simp only [entered]

end References

theorem run_fingerprint_of_remembered {found : String}
    (stored : memo.fingerprints[key]? = some found) :
    (c.fingerprint key).run memo = (.ok found, memo) := by
  rw [Canonicalizer.fingerprint, run_bind, run_get]
  simp only [stored]
  rfl

theorem run_fingerprint_of_missing (missing : memo.fingerprints[key]? = none)
    (absent : c.find? key = none) :
    (c.fingerprint key).run memo = (.error (c.notFound key), memo) := by
  rw [Canonicalizer.fingerprint, run_bind, run_get]
  simp only [missing, absent, run_throw]

theorem run_fingerprint_of_find? (missing : memo.fingerprints[key]? = none)
    (entered : c.find? key = some definition) :
    (c.fingerprint key).run memo =
      match (c.digest maxTypeDepth key definition []).run memo.restarted with
      | (.ok root, after) => (.ok root.fingerprint, after.withFingerprint key root.fingerprint)
      | (.error e, after) => (.error e, after) := by
  rw [Canonicalizer.fingerprint, run_bind, run_get]
  simp only [missing, entered, run_bind, run_modify, Memo.restarted]
  rcases (c.digest maxTypeDepth key definition []).run { memo with steps := 0 } with
    ⟨_ | root, after⟩ <;> rfl

/-- Steps run out only for a type that is there, and of which no fingerprint is remembered. -/
theorem exists_find?_of_spent
    (spent : ((c.fingerprint key).run memo).1 = .error (c.stepsError key [])) :
    memo.fingerprints[key]? = none ∧ ∃ definition, c.find? key = some definition := by
  cases stored : memo.fingerprints[key]? with
  | some found =>
    rw [run_fingerprint_of_remembered stored] at spent
    cases spent
  | none =>
    cases entered : c.find? key with
    | none =>
      rw [run_fingerprint_of_missing stored entered] at spent
      cases spent
    | some definition => exact ⟨rfl, definition, rfl⟩

end Canonicalizer
end StorageLayout
