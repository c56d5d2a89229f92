import StorageLayout.Digest.Blake3
import StorageLayout.Proofs.Fingerprint.Memo

/-!
# Fingerprints after any history

A contract's types are fingerprinted one after another, and what one call remembers is there for the
next, also when the call failed. Every call keeps the memo sound, so that whatever was asked before,
a fingerprint that is given is the start of the hash that the plain recursion computes.
-/
namespace StorageLayout.Canonicalizer

open Resolution Stateful

/-- What is remembered once these keys have been asked for, in order, whether they failed or not. -/
def memoAfter (c : Canonicalizer) (calls : List String) : Memo :=
  calls.foldl (fun memo key => ((c.fingerprint key).run memo).2) {}

theorem memoAfter_concat (c : Canonicalizer) (calls : List String) (key : String) :
    c.memoAfter (calls ++ [key]) = ((c.fingerprint key).run (c.memoAfter calls)).2 := by
  rw [memoAfter, List.foldl_append]
  rfl

variable {c : Canonicalizer}

/-- Asking for a key without an entry fails and leaves the memo as it was. -/
theorem run_fingerprint_of_absent {memo : Memo} (sound : c.Sound memo) {key : String}
    (absent : c.find? key = none) :
    (c.fingerprint key).run memo = (.error (c.notFound key), memo) := by
  rw [Canonicalizer.fingerprint, run_bind, run_get]
  cases stored : memo.fingerprints[key]? with
  | none => simp only [stored, absent, run_throw]
  | some found =>
    obtain ⟨root, plain, -⟩ := sound.fingerprints key found stored
    rw [TypeScope.plainDigest_of_absent List.not_mem_nil absent] at plain
    cases plain

theorem Sound.fingerprint (faithful : c.Faithful) {memo : Memo} (sound : c.Sound memo)
    (key : String) : c.Sound ((c.fingerprint key).run memo).2 := by
  cases entered : c.find? key with
  | some definition =>
    have plain : c.plainDigest c.hash key [] = .digest _ :=
      TypeScope.plainDigest_of_find? List.not_mem_nil entered
    exact (yields_fingerprint faithful plain memo sound).1
  | none =>
    rw [run_fingerprint_of_absent sound entered]
    exact sound

/-- The memo is sound after every sequence of calls. -/
theorem sound_memoAfter (faithful : c.Faithful) (calls : List String) :
    c.Sound (c.memoAfter calls) := by
  rw [memoAfter]
  generalize before : ({} : Memo) = memo
  have sound : c.Sound memo := before ▸ sound_empty
  clear before
  induction calls generalizing memo with
  | nil => exact sound
  | cons key rest ih => exact ih _ (sound.fingerprint faithful key)

/-- Whatever was asked before, a fingerprint that is given is the start of the plain hash. -/
theorem fingerprint_eq_plain (hash : String → String) (s : TypeScope) (calls : List String)
    {key result : String}
    (given : (((ofScope hash s).fingerprint key).run ((ofScope hash s).memoAfter calls)).1 =
      .ok result) :
    ∃ root, s.plainDigest hash key [] = .digest root ∧ result = root.fingerprint := by
  have faithful := faithful_ofScope hash s
  have sound := sound_memoAfter faithful calls
  cases entered : s.find? key with
  | some definition =>
    have plain : s.plainDigest hash key [] = .digest _ :=
      TypeScope.plainDigest_of_find? List.not_mem_nil entered
    exact ⟨_, plain, (yields_fingerprint faithful plain _ sound).2 result given⟩
  | none =>
    rw [run_fingerprint_of_absent sound entered] at given
    cases given

/-- A node that refers to itself, and a mapping to such nodes from a key without an entry. -/
def queueTypes : TypeScope where
  contract := "Queue"
  types := {
    entries := [
      ("node", ⟨.inplace, "struct Node", "32", none, some [⟨"next", 0, "0", "node", none⟩], none,
        none⟩),
      ("queue", ⟨.mapping, "mapping(uint => struct Node)", "32", some "uint", none, some "node",
        none⟩)]
    keys_distinct := by decide }

def queueNode : NodeDigest :=
  .ofNode Digest.blake3 ⟨.inplace, "32", none, some [⟨"next", 0, "0", .recursive 1⟩], none, none⟩

/-- A struct whose one member is the struct again. -/
def linkedStruct (key label : String) (contract : Option String) : TypeDefinition :=
  ⟨.inplace, label, "32", none, some [⟨"next", 0, "0", key, contract⟩], none, none⟩

/-- Such a struct has one digest, whatever its key, its label and its contract are. -/
theorem plainDigest_linkedStruct {s : TypeScope} {key label : String} {contract : Option String}
    (entered : s.find? key = some (linkedStruct key label contract)) :
    s.plainDigest Digest.blake3 key [] = .digest queueNode := by
  have own : [key].idxOf? key = some 0 := by simp [List.idxOf?_cons]
  rw [TypeScope.plainDigest_of_find? List.not_mem_nil entered]
  simp [linkedStruct, TypeDefinition.node, TypeNode.map, NodeMember.map,
    TypeScope.plainDigest_of_idxOf? own]
  rfl

theorem context_queueNode : (ofScope Digest.blake3 queueTypes).context "node" ["queue"] = [] := by
  have apart : ¬ queueTypes.types.LeadsTo "node" "queue" :=
    TypeDictionary.not_leadsTo_of_unnamed (by decide)
  have unreached := mt (faithful_ofScope Digest.blake3 queueTypes "node" "queue").1 apart
  simp [context, unreached]

/-- The node's hash is remembered from the mapping when its fingerprint is asked for, after a call
that failed. -/
theorem run_fingerprint_queueNode :
    (((ofScope Digest.blake3 queueTypes).fingerprint "node").run
      ((ofScope Digest.blake3 queueTypes).memoAfter ["queue", "missing"])).1 =
        .ok queueNode.fingerprint := by
  have no_ancestors (key : String) : (ofScope Digest.blake3 queueTypes).context key [] = [] := rfl
  have node : (ofScope Digest.blake3 queueTypes).find? "node" = some _ := rfl
  have queue : (ofScope Digest.blake3 queueTypes).find? "queue" = some _ := rfl
  have uint : (ofScope Digest.blake3 queueTypes).find? "uint" = none := rfl
  have missing : (ofScope Digest.blake3 queueTypes).find? "missing" = none := rfl
  have hashed : NodeDigest.ofNode (ofScope Digest.blake3 queueTypes).hash
      ⟨.inplace, "32", none, some [⟨"next", 0, "0", .recursive 1⟩], none, none⟩ = queueNode := rfl
  have height : queueNode.height = 1 := rfl
  simp only [memoAfter, List.foldl, fingerprint, run_bind, run_get, node, queue, missing,
    maxTypeDepth]
  rw [digest, digest]
  simp [run_bind, run_get, run_modify, run_map, countStep, maxResolveSteps, no_ancestors,
    TypeDefinition.node, TypeNode.replace, TypeNode.replaceOption, TypeNode.replaceMembers,
    TypeNode.replaceOptionalMembers, List.idxOf?_cons, uint, node]
  rw [digest]
  simp [run_bind, run_get, run_modify, run_map, run_throw, countStep, maxResolveSteps,
    context_queueNode, TypeDefinition.node, TypeNode.replace, TypeNode.replaceOption,
    TypeNode.replaceMembers, TypeNode.replaceOptionalMembers, List.idxOf?_cons, hashed, height,
    Std.HashMap.getElem_insert]
  rfl

/-- The fingerprint so remembered is the start of the plain hash. -/
theorem queueNode_fingerprint_eq_plain :
    (((ofScope Digest.blake3 queueTypes).fingerprint "node").run
      ((ofScope Digest.blake3 queueTypes).memoAfter ["queue", "missing"])).1 =
        .ok queueNode.fingerprint ∧
    ∃ root, queueTypes.plainDigest Digest.blake3 "node" [] = .digest root ∧
      queueNode.fingerprint = root.fingerprint :=
  ⟨run_fingerprint_queueNode,
    fingerprint_eq_plain Digest.blake3 queueTypes ["queue", "missing"] run_fingerprint_queueNode⟩

end StorageLayout.Canonicalizer
