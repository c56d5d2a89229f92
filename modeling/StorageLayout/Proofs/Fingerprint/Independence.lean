import StorageLayout.Proofs.Fingerprint.Budget
import StorageLayout.Proofs.Fingerprint.History

/-!
# Fingerprints do not depend on what was asked before

A run on a memo that remembers more is never worse off: it takes no more steps, and gives the same
answer unless the other run takes too many. Whatever was asked before, a fingerprint is therefore
the one computed with nothing remembered; where that would take too many steps, it may also be the
one computed without a limit on steps.
-/
namespace StorageLayout

/-- The fingerprint of a type when depth is limited but steps are not. -/
def TypeScope.unlimitedFingerprint (s : TypeScope) (hash : String → String) (key : String) :
    Except LayoutError String :=
  match s.plainDigest hash key [] with
  | .digest root =>
    if maxTypeDepth < root.height then .error (s.depthError key []) else .ok root.fingerprint
  | _ => .error (s.notFound key)

/-- A fingerprint without a limit on steps comes from an entry that is not too deep. -/
theorem TypeScope.digest_of_unlimitedFingerprint {s : TypeScope} {hash : String → String}
    {key fingerprint : String} (given : s.unlimitedFingerprint hash key = .ok fingerprint) :
    ∃ definition root, s.find? key = some definition ∧
      s.plainDigest hash key [] = .digest root ∧ root.height ≤ maxTypeDepth ∧
      root.fingerprint = fingerprint := by
  cases entered : s.find? key with
  | none =>
    rw [unlimitedFingerprint, plainDigest_of_absent List.not_mem_nil entered] at given
    exact nomatch given
  | some definition =>
    have digest : s.plainDigest hash key [] = .digest _ :=
      plainDigest_of_find? List.not_mem_nil entered
    rw [unlimitedFingerprint, digest] at given
    dsimp only at given
    split at given
    · exact nomatch given
    · next shallow =>
      exact ⟨definition, _, rfl, digest, Nat.le_of_not_lt shallow, Except.ok.inj given⟩

namespace Canonicalizer

open Resolution

variable {c : Canonicalizer}

theorem unlimitedFingerprint_of_absent {key : String} (absent : c.find? key = none) :
    c.unlimitedFingerprint c.hash key = .error (c.notFound key) := by
  rw [TypeScope.unlimitedFingerprint, TypeScope.plainDigest_of_absent List.not_mem_nil absent]

theorem unlimitedFingerprint_of_digest {key : String} {root : NodeDigest}
    (digest : c.plainDigest c.hash key [] = .digest root) :
    c.unlimitedFingerprint c.hash key =
      if maxTypeDepth < root.height then .error (c.depthError key [])
      else .ok root.fingerprint := by
  rw [TypeScope.unlimitedFingerprint, digest]

theorem Consistent.withFingerprint {memo : Memo} (consistent : c.Consistent memo) {key : String}
    {root : NodeDigest} (digest : c.plainDigest c.hash key [] = .digest root)
    (low : root.height ≤ maxTypeDepth) :
    c.Consistent (memo.withFingerprint key root.fingerprint) where
  toSound := consistent.toSound.insertFingerprint digest
  closed := consistent.closed
  shallow key' found root' stored digest' := by
    rw [Memo.withFingerprint, Std.HashMap.getElem?_insert] at stored
    split at stored
    · next same =>
      obtain rfl := eq_of_beq same
      obtain rfl := ChildRef.digest.inj (digest.symm.trans digest')
      exact low
    · exact consistent.shallow key' found root' stored digest'

/-- A fingerprint is the one without a limit on steps, unless the steps run out. -/
theorem fingerprint_ends (faithful : c.Faithful) {memo : Memo} (consistent : c.Consistent memo)
    (key : String) :
    c.Consistent ((c.fingerprint key).run memo).2 ∧
      (((c.fingerprint key).run memo).1 = .error (c.stepsError key []) ∨
        ((c.fingerprint key).run memo).1 = c.unlimitedFingerprint c.hash key) := by
  cases stored : memo.fingerprints[key]? with
  | some found =>
    obtain ⟨root, digest, rfl⟩ := consistent.fingerprints key found stored
    have low := consistent.shallow key _ root stored digest
    rw [run_fingerprint_of_remembered stored, unlimitedFingerprint_of_digest digest,
      if_neg (by omega)]
    exact ⟨consistent, Or.inr rfl⟩
  | none =>
    cases entered : c.find? key with
    | none =>
      rw [run_fingerprint_of_missing stored entered, unlimitedFingerprint_of_absent entered]
      exact ⟨consistent, Or.inr rfl⟩
    | some definition =>
      have digest : c.plainDigest c.hash key [] = .digest _ :=
        TypeScope.plainDigest_of_find? List.not_mem_nil entered
      have ends := digestEnds faithful maxTypeDepth entered (TypeDictionary.ancestry_nil key)
        List.not_mem_nil digest memo.restarted ⟨consistent.restarted, Nat.zero_le _⟩
      rw [run_fingerprint_of_find? stored entered, unlimitedFingerprint_of_digest digest]
      generalize (c.digest maxTypeDepth key definition []).run memo.restarted = outcome at ends ⊢
      rcases outcome with ⟨e | root, after⟩
      · obtain ⟨consistent', -, ⟨rfl, deep⟩ | ⟨rfl, -⟩⟩ := ends
        · rw [if_pos deep]
          exact ⟨consistent', Or.inr rfl⟩
        · exact ⟨consistent', Or.inl rfl⟩
      · obtain ⟨⟨consistent', -⟩, -, rfl, low, -⟩ := ends
        rw [if_neg (by omega)]
        exact ⟨consistent'.withFingerprint digest low, Or.inr rfl⟩

theorem consistent_memoAfter (faithful : c.Faithful) (calls : List String) :
    c.Consistent (c.memoAfter calls) := by
  rw [memoAfter]
  generalize before : ({} : Memo) = memo
  have consistent : c.Consistent memo := before ▸ consistent_empty
  clear before
  induction calls generalizing memo with
  | nil => exact consistent
  | cons key rest ih => exact ih _ (fingerprint_ends faithful consistent key).1

/-- The second memo remembers all that the first one does, and has counted no more steps. -/
structure Warmer (c : Canonicalizer) (cold warm : Memo) : Prop where
  affordable : c.Affordable cold
  consistent : c.Consistent warm
  remembered : ∀ place ∈ cold.nodes, place ∈ warm.nodes
  cheaper : warm.steps ≤ cold.steps

theorem Warmer.affordable_warm {cold warm : Memo} (warmer : c.Warmer cold warm) :
    c.Affordable warm :=
  ⟨warmer.consistent, Nat.le_trans warmer.cheaper warmer.affordable.2⟩

theorem Warmer.counted {cold warm : Memo} (warmer : c.Warmer cold warm)
    (left : cold.steps < maxResolveSteps) : c.Warmer cold.counted warm.counted where
  affordable := ⟨warmer.affordable.1.counted, left⟩
  consistent := warmer.consistent.counted
  remembered := warmer.remembered
  cheaper := Nat.succ_le_succ warmer.cheaper

/-- What is computed on the colder memo is what the warmer one remembers. -/
theorem tracks_of_remembered (faithful : c.Faithful) {room : Nat} {key : String}
    {definition : TypeDefinition} {path : List String} {plain : NodeDigest} {cold warm : Memo}
    (entered : c.find? key = some definition) (ancestry : c.types.Ancestry key path)
    (fresh : key ∉ path) (digest : c.plainDigest c.hash key path = .digest plain)
    (warmer : c.Warmer cold warm) (stored : warm.nodes[(key, c.context key path)]? = some plain) :
    Agree c.Warmer Eq (· = c.stepsError key path) Eq ((c.digest room key definition path).run cold)
      ((c.digest room key definition path).run warm) := by
  have ends := digestEnds faithful room entered ancestry fresh digest cold warmer.affordable
  have place : (key, c.context key path) ∈ warm.nodes :=
    Std.HashMap.mem_iff_isSome_getElem?.2 (by rw [stored]; rfl)
  rw [run_digest_of_remembered stored]
  generalize (c.digest room key definition path).run cold = outcome at ends ⊢
  rcases outcome with ⟨e | found, after⟩
  · obtain ⟨-, -, ⟨rfl, deep⟩ | ⟨rfl, -⟩⟩ := ends
    · rw [if_pos deep]
      exact Or.inr rfl
    · refine agree_of_excused ?_ after _
      rfl
  · obtain ⟨affordable, progress, rfl, low, -⟩ := ends
    rw [if_neg (by omega)]
    refine ⟨rfl, affordable, warmer.consistent, fun other member => ?_,
      Nat.le_trans warmer.cheaper progress.later⟩
    rcases progress.within other member with before | ⟨last, above, walked, rfl⟩
    · exact warmer.remembered other before
    · exact warmer.consistent.closed.walk ancestry fresh place walked

/-- Both memos have the digest, or the warmer one has, or it is still to be computed on both. -/
theorem tracks_of_missing (faithful : c.Faithful) {room : Nat} {key : String}
    {definition : TypeDefinition} {path : List String} (entered : c.find? key = some definition)
    (ancestry : c.types.Ancestry key path) (fresh : key ∉ path)
    (missed : ∀ cold warm, c.Warmer cold warm → cold.nodes[(key, c.context key path)]? = none →
      warm.nodes[(key, c.context key path)]? = none → cold.steps < maxResolveSteps →
        Agree c.Warmer Eq (· = c.stepsError key path) Eq
          ((c.digest room key definition path).run cold)
          ((c.digest room key definition path).run warm)) :
    Tracks c.Warmer Eq (· = c.stepsError key path) Eq (c.digest room key definition path)
      (c.digest room key definition path) := by
  intro cold warm warmer
  cases stored' : warm.nodes[(key, c.context key path)]? with
  | some found =>
    have digest : c.plainDigest c.hash key path = .digest found :=
      warmer.consistent.nodes key _ found stored' path ancestry fresh rfl
    exact tracks_of_remembered faithful entered ancestry fresh digest warmer stored'
  | none =>
    have stored : cold.nodes[(key, c.context key path)]? = none := by
      rw [Std.HashMap.getElem?_eq_none]
      intro member
      have remembered := warmer.remembered _ member
      rw [Std.HashMap.mem_iff_isSome_getElem?, stored'] at remembered
      exact nomatch remembered
    by_cases left : cold.steps < maxResolveSteps
    · exact missed cold warm warmer stored stored' left
    · rw [run_digest_of_spent stored left]
      refine agree_of_excused ?_ _ _
      rfl

/-- If a run on a warmer memo follows the run on a colder one below a reference, so it does at
it. -/
theorem tracks_childRef {room : Nat} {key reference : String} {path : List String}
    (below : ∀ child, c.find? reference = some child → reference ∉ key :: path →
      Tracks c.Warmer Eq (· = c.stepsError reference (key :: path)) Eq
        (c.digest room reference child (key :: path))
        (c.digest room reference child (key :: path))) :
    Tracks c.Warmer Eq (· = c.stepsError key path) Eq (c.childRef room reference (key :: path))
      (c.childRef room reference (key :: path)) := by
  rcases TypeScope.kind_of_reference c.toTypeScope reference (key :: path) with
    ⟨above, found⟩ | ⟨unvisited, absent⟩ | ⟨unvisited, child, entered⟩
  · rw [childRef_of_idxOf? found]
    exact tracks_pure rfl
  · rw [childRef_of_absent unvisited absent]
    exact tracks_pure rfl
  · have ran := below child entered unvisited
    rw [stepsError_cons] at ran
    rw [childRef_of_find? unvisited entered]
    exact ran.map fun _ _ same => congrArg _ same

/-- Unless the steps run out on the colder memo, both memos give the same digest. -/
theorem tracks_digest (faithful : c.Faithful) (room : Nat) {key : String}
    {definition : TypeDefinition} {path : List String} (entered : c.find? key = some definition)
    (ancestry : c.types.Ancestry key path) (fresh : key ∉ path) :
    Tracks c.Warmer Eq (· = c.stepsError key path) Eq (c.digest room key definition path)
      (c.digest room key definition path) := by
  induction room generalizing key definition path with
  | zero =>
    refine tracks_of_missing faithful entered ancestry fresh ?_
    intro cold warm warmer stored stored' left
    have left' : warm.steps < maxResolveSteps := Nat.lt_of_le_of_lt warmer.cheaper left
    rw [run_digest_zero stored left, run_digest_zero stored' left']
    exact Or.inr rfl
  | succ room ih =>
    refine tracks_of_missing faithful entered ancestry fresh ?_
    intro cold warm warmer stored stored' left
    have left' : warm.steps < maxResolveSteps := Nat.lt_of_le_of_lt warmer.cheaper left
    have each : ∀ reference ∈ definition.node.references,
        Tracks c.Warmer Eq (· = c.stepsError key path) Eq
          (c.childRef room reference (key :: path)) (c.childRef room reference (key :: path)) := by
      intro reference listed
      refine tracks_childRef fun child entered' unvisited => ?_
      have edge : c.types.Refers key reference :=
        ⟨definition, entered, (TypeDictionary.mem_references_node_iff _ _).1 listed,
          Option.isSome_iff_exists.2 ⟨child, entered'⟩⟩
      exact ih entered' (ancestry.cons edge) unvisited
    have ran := Tracks.replace rfl (Tracks.mapM (List.forall₂_same.2 each)) cold.counted
      warm.counted (warmer.counted left)
    have digest : c.plainDigest c.hash key path = .digest _ :=
      TypeScope.plainDigest_of_find? fresh entered
    have ends := digestEnds faithful (room + 1) entered ancestry fresh digest cold warmer.affordable
    have ends' := digestEnds faithful (room + 1) entered ancestry fresh digest warm
      warmer.affordable_warm
    rw [run_digest_succ stored left] at ends ⊢
    rw [run_digest_succ stored' left'] at ends' ⊢
    generalize (definition.node.replace (c.childRef room · (key :: path))).run cold.counted =
      outcome at ran ends ⊢
    generalize (definition.node.replace (c.childRef room · (key :: path))).run warm.counted =
      outcome' at ran ends' ⊢
    rcases outcome with ⟨e | node, after⟩ <;> rcases outcome' with ⟨e' | node', after'⟩
    · exact ran
    · exact ran
    · exact ran.elim
    · obtain ⟨rfl, related⟩ := ran
      refine ⟨rfl, ends.1, ends'.1.1, fun place member => ?_, related.cheaper⟩
      rcases Std.HashMap.mem_insert.1 member with same | member
      · exact Std.HashMap.mem_insert.2 (Or.inl same)
      · exact Std.HashMap.mem_insert.2 (Or.inr (related.remembered place member))

/-- The fingerprint of a key once these keys have been asked for. -/
def fingerprintAfter (c : Canonicalizer) (calls : List String) (key : String) :
    Except LayoutError String :=
  ((c.fingerprint key).run (c.memoAfter calls)).1

/-- The steps run out when nothing is remembered. -/
def TooComplex (c : Canonicalizer) (key : String) : Prop :=
  c.freshFingerprint key = .error (c.stepsError key [])

theorem freshFingerprint_ends (faithful : c.Faithful) (key : String) :
    c.TooComplex key ∨
      c.freshFingerprint key = c.unlimitedFingerprint c.hash key :=
  (fingerprint_ends faithful consistent_empty key).2

/-- A fingerprint that can be computed with nothing remembered is the same on every memo. -/
theorem fingerprint_eq_fresh (faithful : c.Faithful) {memo : Memo} (consistent : c.Consistent memo)
    {key : String} (simple : ¬ c.TooComplex key) :
    ((c.fingerprint key).run memo).1 = c.freshFingerprint key := by
  have fresh := (freshFingerprint_ends faithful key).resolve_left simple
  rcases (fingerprint_ends faithful consistent key).2 with spent | same
  · exfalso
    obtain ⟨none_stored, definition, entered⟩ := exists_find?_of_spent spent
    have none_fresh : ({} : Memo).fingerprints[key]? = none := by simp
    have warmer : c.Warmer ({} : Memo).restarted memo.restarted :=
      ⟨⟨consistent_empty.restarted, Nat.zero_le _⟩, consistent.restarted,
        fun place member => by simp [Memo.restarted] at member, Nat.le_refl _⟩
    have ran := tracks_digest faithful maxTypeDepth entered (TypeDictionary.ancestry_nil key)
      List.not_mem_nil _ _ warmer
    rw [TooComplex, freshFingerprint, run_fingerprint_of_find? none_fresh entered] at simple
    rw [run_fingerprint_of_find? none_stored entered] at spent
    generalize (c.digest maxTypeDepth key definition []).run ({} : Memo).restarted = outcome
      at ran simple
    generalize (c.digest maxTypeDepth key definition []).run memo.restarted = outcome'
      at ran spent
    rcases outcome with ⟨e | root, after⟩ <;> rcases outcome' with ⟨e' | root', after'⟩
    · rcases ran with rfl | rfl
      · exact simple rfl
      · exact simple spent
    · cases spent
    · exact ran
    · cases spent
  · rw [same, fresh]

/-- A fingerprint that is given is the one without a limit on steps. -/
theorem unlimitedFingerprint_of_fingerprintAfter {hash : String → String}
    {s : TypeScope} {calls : List String} {key fingerprint : String}
    (given : (ofScope hash s).fingerprintAfter calls key = .ok fingerprint) :
    s.unlimitedFingerprint hash key = .ok fingerprint := by
  have faithful := faithful_ofScope hash s
  rcases (fingerprint_ends faithful (consistent_memoAfter faithful calls) key).2 with spent | same
  · exact nomatch spent.symm.trans given
  · exact same.symm.trans given

/-- A fingerprint is the one without a limit on steps, unless it is too complex and the steps run
out. -/
theorem fingerprint_eq_unlimited_or (faithful : c.Faithful) {memo : Memo}
    (consistent : c.Consistent memo) (key : String) :
    ((c.fingerprint key).run memo).1 = c.unlimitedFingerprint c.hash key ∨
      c.TooComplex key ∧ ((c.fingerprint key).run memo).1 = .error (c.stepsError key []) := by
  by_cases complex : c.TooComplex key
  · exact (fingerprint_ends faithful consistent key).2.symm.imp_right fun spent => ⟨complex, spent⟩
  · left
    rw [fingerprint_eq_fresh faithful consistent complex]
    exact (freshFingerprint_ends faithful key).resolve_left complex

end Canonicalizer
end StorageLayout
