import Mathlib.Algebra.GroupWithZero.Nat
import Mathlib.Data.List.Nodup
import Mathlib.Data.List.TakeWhile
import Mathlib.Data.Nat.Factorial.Basic
import StorageLayout.Proofs.Fingerprint.Exhaustion

/-!
# Types that all refer to each other

In a dictionary in which every entry refers to all keys, each key reaches each other, so that every
path of distinct keys is a context of its own. From one of `n + 1` keys there are as many paths with
`k` steps as there are arrangements of `k` out of `n` keys.
-/
namespace StorageLayout

/-- A struct with a member for each of these keys. -/
def peerStruct (keys : List String) : TypeDefinition where
  encoding := .inplace
  label := "struct Peer"
  numberOfBytes := toString (32 * keys.length)
  key := none
  members := some (keys.zipIdx.map fun (key, slot) => ⟨key, 0, toString slot, key, none⟩)
  value := none
  base := none

/-- The scope in which each of these keys is such a struct. -/
def clique (keys : List String) (distinct : keys.Nodup) : TypeScope where
  contract := "Clique"
  types := {
    entries := keys.map fun key => (key, peerStruct keys)
    keys_distinct := by simpa [Function.comp_def] using distinct }

section Clique

variable {keys : List String} {key reference root : String} {path : List String}

theorem references_peerStruct (keys : List String) : (peerStruct keys).references = keys := by
  have types : (keys.zipIdx.map fun entry => entry.1) = keys := List.zipIdx_map_fst 0 keys
  simp [peerStruct, TypeDefinition.references, Function.comp_def, types]

section Edges

variable (distinct : keys.Nodup)

theorem find?_clique_eq_some_iff {definition : TypeDefinition} :
    (clique keys distinct).find? key = some definition ↔
      key ∈ keys ∧ definition = peerStruct keys := by
  rw [TypeScope.find?, Dictionary.find?_eq_some_iff, clique, List.mem_map]
  constructor
  · rintro ⟨key', member, same⟩
    obtain ⟨rfl, rfl⟩ := Prod.mk.inj same
    exact ⟨member, rfl⟩
  · rintro ⟨member, rfl⟩
    exact ⟨key, member, rfl⟩

theorem contains_clique_iff : (clique keys distinct).types.contains key ↔ key ∈ keys := by
  rw [Dictionary.contains, Option.isSome_iff_exists]
  constructor
  · rintro ⟨definition, entered⟩
    exact ((find?_clique_eq_some_iff distinct).1 entered).1
  · intro member
    exact ⟨_, (find?_clique_eq_some_iff distinct).2 ⟨member, rfl⟩⟩

theorem refers_clique_iff :
    (clique keys distinct).types.Refers key reference ↔ key ∈ keys ∧ reference ∈ keys := by
  constructor
  · intro edge
    exact ⟨(contains_clique_iff distinct).1 edge.contains_source,
      (contains_clique_iff distinct).1 edge.contains_target⟩
  · rintro ⟨source, target⟩
    refine ⟨peerStruct keys, (find?_clique_eq_some_iff distinct).2 ⟨source, rfl⟩, ?_,
      (contains_clique_iff distinct).2 target⟩
    rwa [references_peerStruct]

end Edges

open TypeDictionary

variable {distinct : keys.Nodup}

theorem Walk.distinct_of_clique
    (walked : (clique keys distinct).types.Walk root [] key path) (member : root ∈ keys) :
    (key :: path).Nodup ∧ key :: path ⊆ keys := by
  obtain ⟨fresh, within⟩ := walked.distinct ((contains_clique_iff distinct).2 member)
  exact ⟨fresh, fun key' listed => (contains_clique_iff distinct).1 (within key' listed)⟩

theorem context_clique (hash : String → String) (distinct : keys.Nodup) (member : key ∈ keys)
    (within : path ⊆ keys) :
    (Canonicalizer.ofScope hash (clique keys distinct)).context key path = path := by
  rw [Canonicalizer.context, List.takeWhile_eq_self_iff]
  intro ancestor listed
  rw [Canonicalizer.faithful_ofScope]
  exact .single ((refers_clique_iff distinct).2 ⟨member, within listed⟩)

/-- The places one step below a place. -/
def placesBelow (keys : List String) (place : Canonicalizer.Place) : List Canonicalizer.Place :=
  (keys.filter (· ∉ place.1 :: place.2)).map (·, place.1 :: place.2)

/-- The places that are some steps below a root. -/
def placesAt (keys : List String) (root : String) : Nat → List Canonicalizer.Place
  | 0 => [(root, [])]
  | steps + 1 => (placesAt keys root steps).flatMap (placesBelow keys)

/-- The places some steps below a root are those at the ends of walks of that many steps. -/
theorem mem_placesAt_iff (distinct : keys.Nodup) (member : root ∈ keys) (steps : Nat) :
    (key, path) ∈ placesAt keys root steps ↔
      (clique keys distinct).types.Walk root [] key path ∧ path.length = steps := by
  induction steps generalizing key path with
  | zero =>
    rw [placesAt, List.mem_singleton, Prod.mk.injEq, List.length_eq_zero_iff]
    constructor
    · rintro ⟨rfl, rfl⟩
      exact ⟨.here, rfl⟩
    · rintro ⟨walked, rfl⟩
      cases walked
      exact ⟨rfl, rfl⟩
  | succ steps ih =>
    rw [placesAt, List.mem_flatMap]
    constructor
    · rintro ⟨⟨last, above⟩, upper, listed⟩
      obtain ⟨key', inside, same⟩ := List.mem_map.1 listed
      obtain ⟨rfl, rfl⟩ := Prod.mk.inj same
      obtain ⟨target, fresh⟩ := List.mem_filter.1 inside
      obtain ⟨walked, length⟩ := ih.1 upper
      have source := (Walk.distinct_of_clique walked member).2 List.mem_cons_self
      exact ⟨.next walked ((refers_clique_iff distinct).2 ⟨source, target⟩)
        (of_decide_eq_true fresh), congrArg Nat.succ length⟩
    · rintro ⟨walked, length⟩
      cases walked with
      | here => simp at length
      | @next last _ above walked edge fresh =>
        refine ⟨(last, above), ih.2 ⟨walked, Nat.succ.inj length⟩, List.mem_map.2 ⟨key, ?_, rfl⟩⟩
        exact List.mem_filter.2 ⟨((refers_clique_iff distinct).1 edge).2, decide_eq_true fresh⟩

/-- No place is reached twice: it is the path that leads to it. -/
theorem nodup_placesAt (distinct : keys.Nodup) (steps : Nat) :
    (placesAt keys root steps).Nodup := by
  induction steps with
  | zero => exact List.nodup_singleton _
  | succ steps ih =>
    rw [placesAt, List.nodup_flatMap]
    constructor
    · intro place _
      exact (distinct.filter _).map fun _ _ same => (Prod.mk.inj same).1
    · refine ih.imp fun {upper other} apart place listed listed' => apart ?_
      obtain ⟨_, -, rfl⟩ := List.mem_map.1 listed
      obtain ⟨_, -, same⟩ := List.mem_map.1 listed'
      obtain ⟨first, second⟩ := List.cons.inj (Prod.mk.inj same).2
      exact (Prod.ext first second).symm

/-- A place leads to all keys but those on its path. -/
theorem length_placesBelow {place : Canonicalizer.Place} (distinct : keys.Nodup)
    (fresh : (place.1 :: place.2).Nodup) (within : place.1 :: place.2 ⊆ keys) :
    (placesBelow keys place).length = keys.length - (place.2.length + 1) := by
  have visited : (keys.filter (· ∈ place.1 :: place.2)).Perm (place.1 :: place.2) := by
    rw [List.perm_ext_iff_of_nodup (distinct.filter _) fresh]
    intro key
    rw [List.mem_filter, decide_eq_true_iff]
    exact ⟨fun both => both.2, fun listed => ⟨within listed, listed⟩⟩
  have parts := keys.length_eq_length_filter_add (· ∈ place.1 :: place.2)
  rw [visited.length_eq, List.length_cons] at parts
  rw [placesBelow, List.length_map]
  simp only [decide_not]
  omega

/-- There are as many paths as arrangements of the other keys. -/
theorem length_placesAt (distinct : keys.Nodup) (member : root ∈ keys) (steps : Nat) :
    (placesAt keys root steps).length = (keys.length - 1).descFactorial steps := by
  induction steps with
  | zero => rfl
  | succ steps ih =>
    have each : ∀ place ∈ placesAt keys root steps,
        (placesBelow keys place).length = keys.length - 1 - steps := by
      rintro ⟨key, path⟩ listed
      obtain ⟨walked, rfl⟩ := (mem_placesAt_iff distinct member steps).1 listed
      obtain ⟨fresh, within⟩ := Walk.distinct_of_clique walked member
      rw [length_placesBelow distinct fresh within]
      dsimp only
      omega
    rw [placesAt, List.length_flatMap, List.map_congr_left each, List.map_const',
      List.sum_replicate_nat, ih, Nat.descFactorial_succ, Nat.mul_comm]

def placesFrom (keys : List String) (root : String) : List Canonicalizer.Place :=
  (List.range keys.length).flatMap (placesAt keys root)

theorem mem_placesFrom_iff (distinct : keys.Nodup) (member : root ∈ keys) :
    (key, path) ∈ placesFrom keys root ↔ (clique keys distinct).types.Walk root [] key path := by
  rw [placesFrom, List.mem_flatMap]
  constructor
  · rintro ⟨steps, -, listed⟩
    exact ((mem_placesAt_iff distinct member steps).1 listed).1
  · intro walked
    obtain ⟨fresh, within⟩ := Walk.distinct_of_clique walked member
    have short : path.length < keys.length := (List.subperm_of_subset fresh within).length_le
    exact ⟨path.length, List.mem_range.2 short,
      (mem_placesAt_iff distinct member _).2 ⟨walked, rfl⟩⟩

theorem nodup_placesFrom (distinct : keys.Nodup) (member : root ∈ keys) :
    (placesFrom keys root).Nodup := by
  rw [placesFrom, List.nodup_flatMap]
  refine ⟨fun steps _ => nodup_placesAt distinct steps, List.nodup_range.imp ?_⟩
  intro steps other apart place listed listed'
  have length := ((mem_placesAt_iff distinct member steps).1 listed).2
  have length' := ((mem_placesAt_iff distinct member other).1 listed').2
  exact apart (length.symm.trans length')

theorem length_placesFrom (distinct : keys.Nodup) (member : root ∈ keys) :
    (placesFrom keys root).length =
      ((List.range keys.length).map (keys.length - 1).descFactorial).sum := by
  rw [placesFrom, List.length_flatMap]
  simp only [length_placesAt distinct member]

/-- The hashes for a key are filed at the places below it. -/
theorem below_clique_iff (hash : String → String) (distinct : keys.Nodup) (member : root ∈ keys)
    (place : Canonicalizer.Place) :
    (Canonicalizer.ofScope hash (clique keys distinct)).Below root [] place ↔
      place ∈ placesFrom keys root := by
  obtain ⟨key, path⟩ := place
  rw [mem_placesFrom_iff distinct member]
  have filed {last : String} {above : List String}
      (walked : (clique keys distinct).types.Walk root [] last above) :
      (Canonicalizer.ofScope hash (clique keys distinct)).context last above = above := by
    have within := (Walk.distinct_of_clique walked member).2
    exact context_clique hash distinct (within List.mem_cons_self) (List.cons_subset.1 within).2
  constructor
  · rintro ⟨last, above, walked, same⟩
    obtain ⟨rfl, rfl⟩ := Prod.mk.inj same
    rw [filed walked]
    exact walked
  · intro walked
    exact ⟨key, path, walked, by rw [filed walked]⟩

end Clique

namespace Canonicalizer

variable {keys : List String} {root : String}

theorem height_clique_le (hash : String → String) (distinct : keys.Nodup) (root : String) :
    ((clique keys distinct).plainDigest hash root []).height ≤ keys.length := by
  have low := (clique keys distinct).height_plainDigest_le hash root []
  have count : (clique keys distinct).types.keys.length = keys.length := by
    simp [Dictionary.keys, clique]
  have filtered := List.length_filter_le (· ∉ ([] : List String)) (clique keys distinct).types.keys
  omega

/-- If the paths through a clique are too many for one call, but not for two, the second call for a
key succeeds where the first one fails. -/
theorem fingerprint_clique (hash : String → String) (distinct : keys.Nodup) (member : root ∈ keys)
    (shallow : keys.length ≤ maxTypeDepth)
    (many : maxResolveSteps < ((List.range keys.length).map (keys.length - 1).descFactorial).sum)
    (few : ((List.range keys.length).map (keys.length - 1).descFactorial).sum <
      2 * (maxResolveSteps - maxTypeDepth)) :
    (ofScope hash (clique keys distinct)).freshFingerprint root =
        .error (.typeTooComplex "Clique" root maxResolveSteps) ∧
      ∃ fingerprint, (ofScope hash (clique keys distinct)).fingerprintAfter [root] root =
        .ok fingerprint := by
  have faithful := faithful_ofScope hash (clique keys distinct)
  have below := below_clique_iff hash distinct member
  have low := Nat.le_trans (height_clique_le hash distinct root) shallow
  rw [← length_placesFrom distinct member] at many few
  have first := freshFingerprint_of_many faithful ((contains_clique_iff distinct).2 member)
    (nodup_placesFrom distinct member) (fun place listed => (below place).2 listed) many low
  refine ⟨first, ?_⟩
  rw [fingerprintAfter_again faithful (fun place inside => (below place).1 inside) few first]
  have entered := (find?_clique_eq_some_iff distinct).2 ⟨member, rfl⟩
  have digest : (clique keys distinct).plainDigest hash root [] = .digest _ :=
    TypeScope.plainDigest_of_find? List.not_mem_nil entered
  rw [digest, ChildRef.height, ← Nat.not_lt] at low
  have limited := unlimitedFingerprint_of_digest (c := ofScope hash (clique keys distinct)) digest
  rw [if_neg low] at limited
  exact ⟨_, limited⟩

/-- Distinct keys are a path through their clique. -/
theorem exists_walk_clique (distinct : keys.Nodup) {key : String} {path : List String}
    (fresh : (key :: path).Nodup) (within : key :: path ⊆ keys) :
    ∃ root ∈ keys, (clique keys distinct).types.Walk root [] key path := by
  induction path generalizing key with
  | nil => exact ⟨key, within List.mem_cons_self, .here⟩
  | cons parent rest ih =>
    obtain ⟨unvisited, fresh_rest⟩ := List.nodup_cons.1 fresh
    obtain ⟨member, within_rest⟩ := List.cons_subset.1 within
    obtain ⟨root, listed, walked⟩ := ih fresh_rest within_rest
    have edge := (refers_clique_iff distinct).2 ⟨within_rest List.mem_cons_self, member⟩
    exact ⟨root, listed, .next walked edge unvisited⟩

/-- Types of a dictionary with at most seven keys are never too complex: there are no more places
than in a clique of these keys. -/
theorem not_tooComplex_of_few {c : Canonicalizer} (faithful : c.Faithful)
    (few : c.types.keys.length ≤ 7) (key : String) : ¬ c.TooComplex key := by
  intro complex
  have entry : c.types.contains key :=
    Option.isSome_iff_exists.2 (exists_find?_of_spent complex).2
  obtain ⟨unfinished, levels, progress, beyond⟩ :=
    fingerprint_spent faithful consistent_empty complex
  have distinct : c.types.keys.Nodup := c.types.keys_distinct
  have listed : ∀ place ∈ ((c.fingerprint key).run {}).2.nodes,
      place ∈ c.types.keys.flatMap (placesFrom c.types.keys) := by
    intro place member
    rcases progress.within place member with none | ⟨last, above, walked, rfl⟩
    · simp [Memo.restarted] at none
    · obtain ⟨fresh, entries⟩ := walked.distinct entry
      have within : last :: above ⊆ c.types.keys := fun visited listed =>
        (Dictionary.contains_iff _ _).1 (entries visited listed)
      have shorter : (c.context last above).Sublist above := List.takeWhile_sublist _
      obtain ⟨root, member, walked'⟩ := exists_walk_clique distinct
        (fresh.sublist (shorter.cons_cons last))
        (List.Subset.trans (shorter.cons_cons last).subset within)
      exact List.mem_flatMap.2 ⟨root, member, (mem_placesFrom_iff distinct member).2 walked'⟩
  have counted := progress.counted
  have size := size_le_length listed
  have count : (c.types.keys.flatMap (placesFrom c.types.keys)).length ≤ 13699 := by
    rw [List.length_flatMap, List.map_congr_left fun root member =>
      length_placesFrom distinct member, List.map_const', List.sum_replicate_nat]
    have all : ∀ n ≤ 7, n * ((List.range n).map (n - 1).descFactorial).sum ≤ 13699 := by decide
    exact all _ few
  simp only [Memo.restarted, Std.HashMap.size_empty, maxResolveSteps, maxTypeDepth]
    at counted beyond levels
  omega

theorem unlimitedFingerprint_of_few {c : Canonicalizer} (few : c.types.keys.length ≤ 7)
    {key : String} {root : NodeDigest} (digest : c.plainDigest c.hash key [] = .digest root) :
    c.unlimitedFingerprint c.hash key = .ok root.fingerprint := by
  have low := c.height_plainDigest_le c.hash key []
  have filtered := List.length_filter_le (· ∉ ([] : List String)) c.types.keys
  rw [digest, ChildRef.height] at low
  rw [unlimitedFingerprint_of_digest digest, if_neg]
  rw [maxTypeDepth]
  omega

theorem freshFingerprint_of_few {c : Canonicalizer} (faithful : c.Faithful)
    (few : c.types.keys.length ≤ 7) {key : String} {root : NodeDigest}
    (digest : c.plainDigest c.hash key [] = .digest root) :
    c.freshFingerprint key = .ok root.fingerprint := by
  rw [(freshFingerprint_ends faithful key).resolve_left (not_tooComplex_of_few faithful few key)]
  exact unlimitedFingerprint_of_few few digest

/-- With at most seven keys the limits do not matter, and the plain digest is the one that is
computed. -/
theorem run_rootDigest_of_few {c : Canonicalizer} (faithful : c.Faithful)
    (few : c.types.keys.length ≤ 7) {key : String} {root : NodeDigest}
    (digest : c.plainDigest c.hash key [] = .digest root) :
    ((c.rootDigest key).run {}).1 = .ok root := by
  have given := freshFingerprint_of_few faithful few digest
  have yields := (yields_rootDigest faithful digest {} sound_empty).2
  rw [freshFingerprint, fingerprint_eq_rootDigest, Stateful.run_bind, Stateful.run_get] at given
  simp only [Std.HashMap.getElem?_empty, Stateful.run_bind] at given
  rcases ran : (c.rootDigest key).run {} with ⟨_ | found, after⟩
  · rw [ran] at given
    cases given
  · rw [ran] at yields
    rw [yields found rfl]

end Canonicalizer
end StorageLayout
