import Std.Data.String.ToNat
import StorageLayout.Proofs.Fingerprint.Exhaustion

/-!
# Each type is hashed once

A step is counted only for a place whose hash is missing, and while the places below it are done the
hash stays missing but its place is not met again. The steps of one fingerprint therefore belong to
distinct places below its key, whether it is given or not. Where no type leads back to itself, no
ancestor is part of a place, so that there are no more steps than types, however often these are
referred to.
-/
namespace StorageLayout

namespace TypeDictionary

open Relation (ReflTransGen)

/-- No entry that a key reaches leads back to itself. -/
def AcyclicFrom (types : TypeDictionary) (key : String) : Prop :=
  ∀ target ∈ types.reachable key, ¬ types.LeadsTo target target

variable {types : TypeDictionary} {key last : String} {path above : List String}

theorem Walk.reaches (walked : types.Walk key path last above) :
    ReflTransGen types.Refers key last := by
  induction walked with
  | here => exact .refl
  | next _ edge _ ih => exact ih.tail edge

theorem Walk.mem_reachable (walked : types.Walk key path last above)
    (entry : types.contains key) : last ∈ types.reachable key := by
  refine ⟨?_, walked.reaches⟩
  cases walked with
  | here => exact entry
  | next _ edge _ => exact edge.contains_target

end TypeDictionary

namespace Canonicalizer

open Resolution Stateful

/-- The steps between two memos were counted for these places, which lie in a region and had no hash
before. -/
structure Counted (region : Place → Prop) (places : List Place) (before after : Memo) : Prop where
  distinct : places.Nodup
  inside : ∀ place ∈ places, region place
  new : ∀ place ∈ places, place ∉ before.nodes
  kept : ∀ place ∈ before.nodes, place ∈ after.nodes
  steps : after.steps = before.steps + places.length

/-- Steps were counted for distinct places, and what they were counted for is stored. -/
def Completes (region : Place → Prop) (before after : Memo) : Prop :=
  ∃ places, Counted region places before after ∧ ∀ place ∈ places, place ∈ after.nodes

/-- Steps were counted for distinct places. -/
def Counts (region : Place → Prop) (before : Memo) (_ : LayoutError) (after : Memo) : Prop :=
  ∃ places, Counted region places before after

section Counted

variable {region wider : Place → Prop} {places others : List Place} {before middle after : Memo}

theorem Counted.refl (memo : Memo) : Counted region [] memo memo where
  distinct := .nil
  inside := by simp
  new := by simp
  kept _ member := member
  steps := rfl

/-- What the first run has stored is not counted again by the second. -/
theorem Counted.trans (first : Counted region places before middle)
    (stored : ∀ place ∈ places, place ∈ middle.nodes)
    (second : Counted region others middle after) :
    Counted region (places ++ others) before after where
  distinct := by
    refine List.nodup_append.2 ⟨first.distinct, second.distinct, ?_⟩
    rintro place counted _ again rfl
    exact second.new place again (stored place counted)
  inside place member := (List.mem_append.1 member).elim (first.inside place) (second.inside place)
  new place member := by
    rcases List.mem_append.1 member with counted | counted
    · exact first.new place counted
    · exact fun earlier => second.new place counted (first.kept place earlier)
  kept place member := second.kept place (first.kept place member)
  steps := by
    rw [second.steps, first.steps, List.length_append, Nat.add_assoc]

theorem Counted.widen (counted : Counted region places before after)
    (wide : ∀ place, region place → wider place) : Counted wider places before after where
  distinct := counted.distinct
  inside place member := wide place (counted.inside place member)
  new := counted.new
  kept := counted.kept
  steps := counted.steps

/-- Storing a hash is no step. -/
theorem Counted.withNode (counted : Counted region places before after) (place : Place)
    (digest : NodeDigest) : Counted region places before (after.withNode place digest) where
  distinct := counted.distinct
  inside := counted.inside
  new := counted.new
  kept other member := Std.HashMap.mem_insert.2 (Or.inr (counted.kept other member))
  steps := counted.steps

theorem Completes.refl (memo : Memo) : Completes region memo memo :=
  ⟨[], .refl memo, by simp⟩

theorem Completes.trans (first : Completes region before middle)
    (second : Completes region middle after) : Completes region before after := by
  obtain ⟨places, counted, stored⟩ := first
  obtain ⟨others, counted', stored'⟩ := second
  refine ⟨places ++ others, counted.trans stored counted', fun place member => ?_⟩
  rcases List.mem_append.1 member with earlier | later
  · exact counted'.kept place (stored place earlier)
  · exact stored' place later

theorem Counts.follow {e : LayoutError} (first : Completes region before middle)
    (second : Counts region middle e after) : Counts region before e after := by
  obtain ⟨places, counted, stored⟩ := first
  obtain ⟨others, counted'⟩ := second
  exact ⟨places ++ others, counted.trans stored counted'⟩

end Counted

variable {c : Canonicalizer} {room : Nat} {key reference : String} {definition : TypeDefinition}
  {path : List String}

theorem not_inside_self : ¬ c.Inside key path (key, c.context key path) := by
  rintro ⟨last, above, -, -, other, place⟩
  exact other (Prod.mk.inj place).1.symm

/-- The place of an entry is counted before, and apart from, the places inside it. -/
theorem Counted.enter {places : List Place} {memo after : Memo}
    (missing : (key, c.context key path) ∉ memo.nodes)
    (counted : Counted (c.Inside key path) places memo.counted after) :
    Counted (c.Below key path) ((key, c.context key path) :: places) memo after where
  distinct := List.nodup_cons.2
    ⟨fun again => not_inside_self (counted.inside _ again), counted.distinct⟩
  inside := List.forall_mem_cons.2
    ⟨⟨key, path, .here, rfl⟩, fun place member => (counted.inside place member).below⟩
  new := List.forall_mem_cons.2 ⟨missing, counted.new⟩
  kept := counted.kept
  steps := by
    have steps : memo.counted.steps = memo.steps + 1 := rfl
    rw [counted.steps, List.length_cons, steps]
    omega

/-- A run ends with each of its steps counted for a place of its own. -/
abbrev CountsOnce {α : Type} (region : Place → Prop) (x : Resolution α) : Prop :=
  Ensures (fun _ => True) (Completes region) (fun _ _ => True) (Counts region) x

/-- A reference counts no step of its own. -/
theorem countsOnce_childRef
    (edge : c.types.contains reference → c.types.Refers key reference)
    (below : ∀ child, c.find? reference = some child → reference ∉ key :: path →
      CountsOnce (c.Below reference (key :: path)) (c.digest room reference child (key :: path))) :
    CountsOnce (c.Inside key path) (c.childRef room reference (key :: path)) := by
  intro memo _
  rcases TypeScope.kind_of_reference c.toTypeScope reference (key :: path) with
    ⟨above, found⟩ | ⟨fresh, absent⟩ | ⟨fresh, child, entered⟩
  · rw [childRef_of_idxOf? found]
    exact ⟨trivial, .refl memo, trivial⟩
  · rw [childRef_of_absent fresh absent]
    exact ⟨trivial, .refl memo, trivial⟩
  · have inside (place : Place) : c.Below reference (key :: path) place → c.Inside key path place :=
      Below.inside (edge (Option.isSome_iff_exists.2 ⟨child, entered⟩)) fresh
    have ran := below child entered fresh memo trivial
    rw [childRef_of_find? fresh entered, run_map]
    generalize (c.digest room reference child (key :: path)).run memo = outcome at ran ⊢
    rcases outcome with ⟨e | found, after⟩
    · obtain ⟨places, counted⟩ := ran
      exact ⟨places, counted.widen inside⟩
    · obtain ⟨-, ⟨places, counted, stored⟩, -⟩ := ran
      exact ⟨trivial, ⟨places, counted.widen inside, stored⟩, trivial⟩

/-- A digest is remembered, or the steps have run out, or it is still to be computed. -/
theorem countsOnce_of_missing
    (missed : ∀ memo, memo.nodes[(key, c.context key path)]? = none →
      memo.steps < maxResolveSteps →
        Ends (fun _ => True) (Completes (c.Below key path)) (fun _ _ => True)
          (Counts (c.Below key path)) memo ((c.digest room key definition path).run memo)) :
    CountsOnce (c.Below key path) (c.digest room key definition path) := by
  intro memo _
  cases stored : memo.nodes[(key, c.context key path)]? with
  | some found =>
    rw [run_digest_of_remembered stored]
    split
    · exact ⟨[], .refl memo⟩
    · exact ⟨trivial, .refl memo, trivial⟩
  | none =>
    by_cases left : memo.steps < maxResolveSteps
    · exact missed memo stored left
    · rw [run_digest_of_spent stored left]
      exact ⟨_, .enter (by simpa using stored) (.refl _)⟩

/-- Every step of a digest is counted for a place of its own below the key. -/
theorem countsOnce_digest (room : Nat) (entered : c.find? key = some definition) :
    CountsOnce (c.Below key path) (c.digest room key definition path) := by
  -- The path grows by one reference for each level, as the room shrinks.
  induction room generalizing key definition path with
  | zero =>
    refine countsOnce_of_missing fun memo missing left => ?_
    rw [run_digest_zero missing left]
    exact ⟨_, .enter (by simpa using missing) (.refl _)⟩
  | succ room ih =>
    refine countsOnce_of_missing fun memo missing left => ?_
    have each : ∀ reference ∈ definition.node.references,
        CountsOnce (c.Inside key path) (c.childRef room reference (key :: path)) := by
      intro reference listed
      refine countsOnce_childRef (fun entry => ?_) fun child entered' _ => ih entered'
      exact ⟨definition, entered, (TypeDictionary.mem_references_node_iff _ _).1 listed, entry⟩
    have listed := Ensures.mapM (I := fun _ => True) (T := Completes (c.Inside key path))
      (F := Counts (c.Inside key path)) (V := fun _ _ _ => True) Completes.refl
      (fun _ _ _ => Completes.trans) (fun _ _ _ _ => Counts.follow) (fun _ _ _ _ _ _ => trivial)
      each
    have ran := listed.replace memo.counted trivial
    rw [run_digest_succ missing left]
    generalize (definition.node.replace (c.childRef room · (key :: path))).run memo.counted =
      outcome at ran ⊢
    rcases outcome with ⟨e | node, after⟩
    · obtain ⟨places, counted⟩ := ran
      exact ⟨_, counted.enter (by simpa using missing)⟩
    · obtain ⟨-, ⟨places, counted, stored⟩, -⟩ := ran
      refine ⟨trivial, ⟨_, (counted.enter (by simpa using missing)).withNode _ _, ?_⟩, trivial⟩
      rw [List.forall_mem_cons]
      exact ⟨Std.HashMap.mem_insert_self, fun place member =>
        Std.HashMap.mem_insert.2 (Or.inr (stored place member))⟩

/-- A fingerprint that is computed counts its steps from zero, each for a place of its own below the
key. -/
theorem counted_fingerprint {memo : Memo} (missing : memo.fingerprints[key]? = none)
    (entered : c.find? key = some definition) :
    ∃ places, Counted (c.Below key []) places memo.restarted ((c.fingerprint key).run memo).2 := by
  have once : CountsOnce (c.Below key []) (c.digest maxTypeDepth key definition []) :=
    countsOnce_digest maxTypeDepth entered
  have ran := once memo.restarted trivial
  rw [run_fingerprint_of_find? missing entered]
  generalize (c.digest maxTypeDepth key definition []).run memo.restarted = outcome at ran ⊢
  rcases outcome with ⟨e | root, after⟩
  · exact ran
  · obtain ⟨-, ⟨places, counted, -⟩, -⟩ := ran
    exact ⟨places, counted.distinct, counted.inside, counted.new, counted.kept, counted.steps⟩

/-- No ancestor is in the context of a type that does not lead back to itself. -/
theorem context_eq_nil_of_walk (faithful : c.Faithful) {last : String} {above : List String}
    (walked : c.types.Walk key [] last above) (acyclic : ¬ c.types.LeadsTo last last) :
    c.context last above = [] := by
  cases walked with
  | here => rfl
  | @next parent _ above _ edge _ =>
    have apart : ¬ c.reaches last parent := fun back =>
      acyclic (((faithful last parent).1 back).tail edge)
    rw [context_cons faithful above edge, if_neg apart]

/-- Below a key from which no cycle is reached, the places are the reachable keys. -/
theorem eq_and_mem_reachable_of_below (faithful : c.Faithful) (entry : c.types.contains key)
    (acyclic : c.types.AcyclicFrom key) {place : Place}
    (below : c.Below key [] place) : place.1 ∈ c.types.reachable key ∧ place.2 = [] := by
  obtain ⟨last, above, walked, rfl⟩ := below
  have reached := walked.mem_reachable entry
  exact ⟨reached, context_eq_nil_of_walk faithful walked (acyclic last reached)⟩

/-- Where no cycle is reached, the steps of a fingerprint are counted for distinct reachable
keys. -/
theorem exists_keys_of_counted (faithful : c.Faithful) (entry : c.types.contains key)
    (acyclic : c.types.AcyclicFrom key)
    {places : List Place} {before after : Memo}
    (counted : Counted (c.Below key []) places before after) :
    ∃ keys : List String, keys.Nodup ∧ (∀ target ∈ keys, target ∈ c.types.reachable key) ∧
      after.steps = before.steps + keys.length := by
  have each (place : Place) (member : place ∈ places) :=
    eq_and_mem_reachable_of_below faithful entry acyclic (counted.inside place member)
  refine ⟨places.map Prod.fst, counted.distinct.map_on ?_, ?_, ?_⟩
  · intro place member other member' same
    exact Prod.ext same ((each place member).2.trans (each other member').2.symm)
  · intro target listed
    obtain ⟨place, member, rfl⟩ := List.mem_map.1 listed
    exact (each place member).1
  · rw [List.length_map]
    exact counted.steps

theorem unlimitedFingerprint_ne_tooComplex (s : TypeScope) (hash : String → String)
    (key contract typeKey : String) (limit : Nat) :
    s.unlimitedFingerprint hash key ≠ .error (.typeTooComplex contract typeKey limit) := by
  intro complex
  rw [TypeScope.unlimitedFingerprint] at complex
  split at complex
  · split at complex <;> cases complex
  · cases complex

/-- Whatever was asked before, a fingerprint that is not remembered counts a step at most once for
each type that its key reaches, if none of them leads back to itself; and it is not refused as too
complex unless there are more of them than steps. -/
theorem acyclic_types_are_counted_once (hash : String → String) (s : TypeScope)
    (calls : List String) {key : String} (acyclic : s.types.AcyclicFrom key) :
    (key ∈ ((ofScope hash s).memoAfter calls).fingerprints ∨ ¬ s.types.contains key →
      (ofScope hash s).memoAfter (calls ++ [key]) = (ofScope hash s).memoAfter calls) ∧
    (key ∉ ((ofScope hash s).memoAfter calls).fingerprints → s.types.contains key →
      ∃ counted : List String, counted.Nodup ∧
        (∀ target ∈ counted, target ∈ s.types.reachable key) ∧
        ((ofScope hash s).memoAfter (calls ++ [key])).steps = counted.length) ∧
    ((s.types.reachable key).ncard ≤ maxResolveSteps → ∀ contract typeKey limit,
      (ofScope hash s).fingerprintAfter calls key ≠
        .error (.typeTooComplex contract typeKey limit)) := by
  have faithful := faithful_ofScope hash s
  have consistent := consistent_memoAfter faithful calls
  rw [memoAfter_concat, fingerprintAfter]
  generalize (ofScope hash s).memoAfter calls = before at consistent ⊢
  have counts (missing : key ∉ before.fingerprints) (entry : s.types.contains key) :
      ∃ counted : List String, counted.Nodup ∧
        (∀ target ∈ counted, target ∈ s.types.reachable key) ∧
        (((ofScope hash s).fingerprint key).run before).2.steps = counted.length := by
    obtain ⟨definition, entered⟩ := Option.isSome_iff_exists.1 entry
    obtain ⟨places, counted⟩ := counted_fingerprint (c := ofScope hash s)
      (Std.HashMap.getElem?_eq_none missing) entered
    obtain ⟨keys, distinct, reached, steps⟩ := exists_keys_of_counted faithful entry acyclic counted
    exact ⟨keys, distinct, reached, steps.trans (Nat.zero_add _)⟩
  have remembers (remembered : key ∈ before.fingerprints) :
      ((ofScope hash s).fingerprint key).run before = (.ok before.fingerprints[key], before) :=
    run_fingerprint_of_remembered (Std.HashMap.getElem?_eq_some_getElem remembered)
  have misses (absent : ¬ s.types.contains key) :
      ((ofScope hash s).fingerprint key).run before = (.error (s.notFound key), before) :=
    run_fingerprint_of_absent consistent.toSound (Option.not_isSome_iff_eq_none.1 absent)
  refine ⟨?_, counts, ?_⟩
  · rintro (remembered | absent)
    · rw [remembers remembered]
    · rw [misses absent]
  · intro few contract typeKey limit complex
    have missing : key ∉ before.fingerprints := by
      intro remembered
      rw [remembers remembered] at complex
      exact nomatch complex
    have entry : s.types.contains key := by
      by_contra absent
      rw [misses absent] at complex
      exact nomatch complex
    have spent := (fingerprint_ends faithful consistent key).2.resolve_right fun same =>
      unlimitedFingerprint_ne_tooComplex s hash key contract typeKey limit (same.symm.trans complex)
    obtain ⟨-, -, -, beyond⟩ := fingerprint_spent faithful consistent spent
    obtain ⟨keys, distinct, reached, steps⟩ := counts missing entry
    have length := TypeDictionary.length_le_ncard_reachable distinct reached
    omega

/-- Types of which each refers to the next one twice, so that twice as many paths lead to it; the
last one refers to a type without an entry. -/
def doublings (levels : Nat) : TypeScope where
  contract := "Doublings"
  types := {
    entries := (List.range levels).map fun level =>
      (toString level, ⟨.mapping, "mapping", "32", some (toString (level + 1)), none,
        some (toString (level + 1)), none⟩)
    keys_distinct := by
      rw [List.map_map]
      exact List.nodup_range.map fun _ _ => Nat.repr_injective }

theorem exists_levels_of_refers {levels : Nat} {source target : String}
    (edge : (doublings levels).types.Refers source target) :
    ∃ level, source = toString level ∧ target = toString (level + 1) := by
  obtain ⟨definition, entered, listed, -⟩ := edge
  obtain ⟨level, -, entry⟩ :=
    List.mem_map.1 ((Dictionary.find?_eq_some_iff _ _ _).1 entered)
  obtain ⟨rfl, rfl⟩ := Prod.mk.inj entry
  exact ⟨level, rfl, by simpa [TypeDefinition.references] using listed⟩

/-- Every level refers to lower ones only. -/
theorem acyclicFrom_doublings (levels : Nat) (key : String) :
    (doublings levels).types.AcyclicFrom key := by
  have descends {source target : String} (path : (doublings levels).types.LeadsTo source target) :
      ∃ above below : Nat, source = toString above ∧ target = toString below ∧ above < below := by
    induction path with
    | single edge =>
      obtain ⟨level, rfl, rfl⟩ := exists_levels_of_refers edge
      exact ⟨level, level + 1, rfl, rfl, Nat.lt_succ_self level⟩
    | tail _ edge ih =>
      obtain ⟨above, below, rfl, same, lower⟩ := ih
      obtain ⟨level, rfl, rfl⟩ := exists_levels_of_refers edge
      obtain rfl := Nat.repr_injective same
      exact ⟨above, level + 1, rfl, rfl, Nat.lt_succ_of_lt lower⟩
  intro target _ path
  obtain ⟨above, below, rfl, same, lower⟩ := descends path
  exact Nat.ne_of_lt lower (Nat.repr_injective same)

/-- More than a million paths lead to the innermost of these types, but no more than twenty-one
steps are counted. -/
theorem doublings_are_counted_once :
    (doublings 21).types.AcyclicFrom "0" ∧
    ((ofScope Digest.blake3 (doublings 21)).memoAfter ["0"]).steps ≤ 21 ∧
    ∀ contract typeKey limit, (ofScope Digest.blake3 (doublings 21)).fingerprintAfter [] "0" ≠
      .error (.typeTooComplex contract typeKey limit) := by
  have acyclic := acyclicFrom_doublings 21 "0"
  obtain ⟨-, counts, affordable⟩ :=
    acyclic_types_are_counted_once Digest.blake3 (doublings 21) [] acyclic
  have few : ((doublings 21).types.reachable "0").ncard ≤ 21 :=
    (TypeDictionary.ncard_reachable_le _ _).trans (by decide)
  refine ⟨acyclic, ?_, affordable (few.trans (by decide))⟩
  obtain ⟨counted, distinct, reached, steps⟩ := counts (by simp [memoAfter]) (by decide)
  exact steps.le.trans ((TypeDictionary.length_le_ncard_reachable distinct reached).trans few)

end Canonicalizer
end StorageLayout
