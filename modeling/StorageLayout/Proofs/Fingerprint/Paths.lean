import Mathlib.Data.List.Chain
import Mathlib.Data.List.TakeWhile
import StorageLayout.Proofs.Fingerprint.History
import StorageLayout.Proofs.Fingerprint.Sharing

/-!
# Paths on which a key is resolved

A key may be resolved on many paths, and its hash is remembered for all those with the same context:
the ancestors at the lower end of the path that lie in one strongly connected component with the
key. A reference from below the key back to an ancestor closes a cycle through the key, so that the
ancestor lies in that component, and with it all ancestors up to it. On paths with one context the
same is therefore computed, down to the levels that the back-references count.
-/
namespace StorageLayout

namespace TypeDictionary

/-- The entry of one key refers to the other key, which may be without an entry. -/
def Names (types : TypeDictionary) (source target : String) : Prop :=
  ∃ definition, types.find? source = some definition ∧ target ∈ definition.references

/-- A path on which a key is resolved: distinct entries, from the one that refers to the key up to
the root, each of which refers to the one below it. -/
structure ResolutionPath (types : TypeDictionary) (key : String) (path : List String) : Prop where
  distinct : (key :: path).Nodup
  linked : (key :: path).IsChain fun below above => types.Names above below

/-- Two keys lie on one cycle of references, as keys do that are in one strongly connected
component. -/
def OnOneCycle (types : TypeDictionary) (key other : String) : Prop :=
  types.LeadsTo key other ∧ types.LeadsTo other key

/-- The ancestors at the lower end of a path, up to the first that is in another component than the
key. -/
structure IsCycleRun (types : TypeDictionary) (key : String) (path run : List String) : Prop where
  cyclic : ∀ ancestor ∈ run, types.OnOneCycle key ancestor
  ends : ∃ above, path = run ++ above ∧ ∀ ancestor ∈ above.head?, ¬ types.OnOneCycle key ancestor

variable {types : TypeDictionary} {key last target : String} {path above : List String}

theorem Names.refers (names : types.Names key target) (entry : types.contains target) :
    types.Refers key target := by
  obtain ⟨definition, entered, listed⟩ := names
  exact ⟨definition, entered, listed, entry⟩

theorem Names.contains_source (names : types.Names key target) : types.contains key := by
  obtain ⟨definition, entered, -⟩ := names
  exact Option.isSome_iff_exists.2 ⟨definition, entered⟩

theorem ResolutionPath.fresh (resolves : types.ResolutionPath key path) : key ∉ path :=
  (List.nodup_cons.1 resolves.distinct).1

/-- Above a key with an entry, each entry of a path refers to an entry. -/
theorem ResolutionPath.ancestry (resolves : types.ResolutionPath key path)
    (entry : types.contains key) : types.Ancestry key path := by
  induction path generalizing key with
  | nil => trivial
  | cons parent rest ih =>
    obtain ⟨names, linked⟩ := List.isChain_cons_cons.1 resolves.linked
    exact ⟨names.refers entry, ih ⟨resolves.distinct.of_cons, linked⟩ names.contains_source⟩

/-- Nothing is referred to from below a key without an entry. -/
theorem Walk.contains_of_names (walked : types.Walk key path last above)
    (names : types.Names last target) : types.contains key := by
  rcases Relation.ReflTransGen.cases_head walked.reaches with rfl | ⟨_, edge, -⟩
  · exact names.contains_source
  · exact edge.contains_source

theorem Walk.isSuffix (walked : types.Walk key path last above) :
    key :: path <:+ last :: above := by
  induction walked with
  | here => exact List.suffix_rfl
  | next _ _ _ ih => exact ih.trans (List.suffix_cons _ _)

/-- What is referred to from below a key is reached from the key, if it has an entry. -/
theorem Walk.leadsTo (walked : types.Walk key path last above) (names : types.Names last target)
    (entry : types.contains target) : types.LeadsTo key target :=
  .tail' walked.reaches (names.refers entry)

end TypeDictionary

/-- The levels that the back-references in an inlined type count, in order. -/
def Inlining.levels : Inlining (List Nat) where
  entry n := n.references.flatten
  unresolved _ := []
  recursive level := [level]

/-- The levels of the back-references at and below a reference. -/
def TypeScope.backLevels (s : TypeScope) (reference : String) (path : List String) : List Nat :=
  s.inline Inlining.levels reference path

namespace TypeScope

/-- A back-reference leaves a key: a type at or below the key refers to a target for which the plain
recursion records a number of levels, and these are more than lead up to the key. -/
structure Leaves (s : TypeScope) (hash : String → String) (key : String) (path : List String)
    (target : String) (levels : Nat) (last : String) (above : List String) : Prop where
  walked : s.types.Walk key path last above
  names : s.types.Names last target
  recorded : s.plainDigest hash target (last :: above) = .recursive levels
  beyond : above.length + 1 - path.length < levels

variable {s : TypeScope} {hash : String → String} {key target last : String}
  {path above : List String} {levels : Nat}

/-- What is recorded as a number of levels stands so far up the path. -/
theorem getElem?_of_recorded (recorded : s.plainDigest hash target path = .recursive levels) :
    ∃ index, levels = index + 1 ∧ path[index]? = some target := by
  rcases kind_of_reference s target path with
    ⟨index, found⟩ | ⟨fresh, absent⟩ | ⟨fresh, definition, entered⟩
  · rw [plainDigest_of_idxOf? found, ChildRef.recursive.injEq] at recorded
    obtain ⟨inside, here, -⟩ := List.idxOf?_eq_some_iff.1 found
    refine ⟨index, recorded.symm, ?_⟩
    rw [List.getElem?_eq_getElem inside, here]
  · rw [plainDigest_of_absent fresh absent] at recorded
    cases recorded
  · rw [plainDigest_of_find? fresh entered] at recorded
    cases recorded

/-- A back-reference that leaves a key goes to an ancestor of the key. -/
theorem Leaves.mem_path (leaves : s.Leaves hash key path target levels last above) :
    target ∈ path := by
  obtain ⟨index, rfl, here⟩ := getElem?_of_recorded leaves.recorded
  obtain ⟨below, split⟩ := leaves.walked.isSuffix
  have lengths := congrArg List.length split
  have beyond := leaves.beyond
  simp only [List.length_append, List.length_cons] at lengths
  obtain ⟨further, rfl⟩ : ∃ further, index = below.length + (further + 1) :=
    ⟨index - below.length - 1, by omega⟩
  rw [← split, List.getElem?_append_right (by omega), Nat.add_sub_cancel_left,
    List.getElem?_cons_succ] at here
  exact List.mem_of_getElem? here

end TypeScope

namespace Canonicalizer

open TypeDictionary

variable {c : Canonicalizer} {key last target : String} {path other above : List String}

/-- The context is the run of ancestors in the component of the key. -/
theorem isCycleRun_context (faithful : c.Faithful) (ancestry : c.types.Ancestry key path) :
    c.types.IsCycleRun key path (c.context key path) where
  cyclic ancestor member := by
    have on_path : ancestor ∈ path := (List.takeWhile_sublist _).mem member
    exact ⟨(faithful key ancestor).1 (List.mem_takeWhile_imp member), ancestry.leadsTo on_path⟩
  ends := by
    refine ⟨path.dropWhile (c.reaches key ·), List.takeWhile_append_dropWhile.symm, ?_⟩
    intro ancestor first on_cycle
    have unreached := List.head?_dropWhile_not (c.reaches key ·) path
    rw [Option.mem_def.1 first] at unreached
    simp [(faithful key ancestor).2 on_cycle.1] at unreached

/-- Ancestors that the key reaches again are in its context. -/
theorem mem_context_of_leadsTo (faithful : c.Faithful) (ancestry : c.types.Ancestry key path)
    (member : target ∈ path) (leads : c.types.LeadsTo key target) :
    target ∈ c.context key path := by
  rw [← List.isSome_idxOf?, ← idxOf?_context faithful ancestry leads, List.isSome_idxOf?]
  exact member

/-- A back-reference that leaves a key goes to the context. -/
theorem mem_context_of_walk (faithful : c.Faithful) (resolves : c.types.ResolutionPath key path)
    (walked : c.types.Walk key path last above) (names : c.types.Names last target)
    (member : target ∈ path) : target ∈ c.context key path := by
  have ancestry := resolves.ancestry (walked.contains_of_names names)
  have entry : c.types.contains target := (ancestry.leadsTo member).contains_source
  exact mem_context_of_leadsTo faithful ancestry member (walked.leadsTo names entry)

/-- The context below a path of resolution is the run of ancestors on one cycle with the key. -/
theorem isCycleRun_of_resolutionPath (faithful : c.Faithful)
    (resolves : c.types.ResolutionPath key path) :
    c.types.IsCycleRun key path (c.context key path) := by
  by_cases entry : c.types.contains key
  · exact isCycleRun_context faithful (resolves.ancestry entry)
  · have unreached (ancestor : String) : ¬ c.types.LeadsTo key ancestor :=
      fun leads => entry leads.contains_source
    have none_reached : c.context key path = [] := by
      rw [context, List.takeWhile_eq_nil_iff]
      exact fun inside => mt (faithful key _).1 (unreached _)
    rw [none_reached]
    exact ⟨by simp, path, rfl, fun ancestor _ on_cycle => unreached ancestor on_cycle.1⟩

/-- On resolution paths with one context the same is built, also from a key without an entry. -/
theorem inline_eq_of_resolutionPath {α : Type} (faithful : c.Faithful) (build : Inlining α)
    (resolves : c.types.ResolutionPath key path) (resolves' : c.types.ResolutionPath key other)
    (same : c.context key path = c.context key other) :
    c.inline build key path = c.inline build key other := by
  by_cases entry : c.types.contains key
  · exact inline_eq_of_context_eq faithful build (resolves.ancestry entry)
      (resolves'.ancestry entry) resolves.fresh resolves'.fresh same
  · have absent : c.find? key = none := by
      simpa [TypeScope.find?, Dictionary.contains] using entry
    rw [TypeScope.inline_of_absent resolves.fresh absent,
      TypeScope.inline_of_absent resolves'.fresh absent]

/-- On each of two paths on which a key is resolved, the context is the run of ancestors in the
key's strongly connected component, and whatever a type at or below the key refers back to above the
key lies in the context. If the contexts are the same, the plain recursion gives the same digest,
of the same height, and the same levels of back-references. -/
theorem context_decides_what_is_below (hash : String → String) (s : TypeScope) {key : String}
    {path other : List String} (resolves : s.types.ResolutionPath key path)
    (resolves' : s.types.ResolutionPath key other)
    (same : (ofScope hash s).context key path = (ofScope hash s).context key other) :
    (∀ ancestors ∈ [path, other],
      s.types.IsCycleRun key ancestors ((ofScope hash s).context key ancestors) ∧
      ∀ target levels last above, s.Leaves hash key ancestors target levels last above →
        target ∈ (ofScope hash s).context key ancestors) ∧
    s.plainDigest hash key path = s.plainDigest hash key other ∧
    (s.plainDigest hash key path).height = (s.plainDigest hash key other).height ∧
    s.backLevels key path = s.backLevels key other := by
  have faithful := faithful_ofScope hash s
  have digests : s.plainDigest hash key path = s.plainDigest hash key other :=
    inline_eq_of_resolutionPath faithful (ChildRef.inlining hash) resolves resolves' same
  refine ⟨fun ancestors listed => ?_, digests, congrArg ChildRef.height digests, ?_⟩
  · have on_path : s.types.ResolutionPath key ancestors := by
      simp only [List.mem_cons, List.not_mem_nil, or_false] at listed
      rcases listed with rfl | rfl
      · exact resolves
      · exact resolves'
    refine ⟨isCycleRun_of_resolutionPath faithful on_path, ?_⟩
    intro target levels last above leaves
    exact mem_context_of_walk faithful on_path leaves.walked leaves.names leaves.mem_path
  · exact inline_eq_of_resolutionPath faithful Inlining.levels resolves resolves' same

/-- Orders by number and an archive of them. An order and the account that placed it refer to each
other. -/
def orderTypes : TypeScope where
  contract := "Exchange"
  types := {
    entries := [
      ("orders", ⟨.mapping, "mapping(uint => struct Order)", "32", some "uint", none, some "order",
        none⟩),
      ("archive", ⟨.dynamicArray, "struct Order[]", "32", none, none, none, some "order"⟩),
      ("order", ⟨.inplace, "struct Order", "32", none, some [⟨"owner", 0, "0", "account", none⟩],
        none, none⟩),
      ("account", ⟨.inplace, "struct Account", "32", none, some [⟨"last", 0, "0", "order", none⟩],
        none, none⟩)]
    keys_distinct := by decide }

theorem resolutionPath_account (root : String) (other : root ∉ ["account", "order"])
    (names : orderTypes.types.Names root "order") :
    orderTypes.types.ResolutionPath "account" ["order", root] where
  distinct := by simp_all [eq_comm]
  linked := by
    have owner : orderTypes.types.Names "order" "account" := ⟨_, rfl, by decide⟩
    simpa using ⟨owner, names⟩

theorem context_account (root : String)
    (unnamed : ∀ entry ∈ orderTypes.types.entries, root ∉ entry.2.references) :
    (ofScope Digest.blake3 orderTypes).context "account" ["order", root] = ["order"] := by
  have faithful := faithful_ofScope Digest.blake3 orderTypes
  have owner : orderTypes.types.Refers "order" "account" := ⟨_, rfl, by decide, by decide⟩
  have last : orderTypes.types.Refers "account" "order" := ⟨_, rfl, by decide, by decide⟩
  have back := (faithful "account" "order").2 (.single last)
  have apart := mt (faithful "order" root).1 (not_leadsTo_of_unnamed unnamed)
  rw [context_cons faithful [root] owner, if_pos back, context, List.takeWhile_cons_of_neg apart]

/-- The account of an order is hashed alike from the mapping and from the archive. -/
theorem account_is_shared :
    orderTypes.types.ResolutionPath "account" ["order", "orders"] ∧
    orderTypes.types.ResolutionPath "account" ["order", "archive"] ∧
    (ofScope Digest.blake3 orderTypes).context "account" ["order", "orders"] = ["order"] ∧
    (ofScope Digest.blake3 orderTypes).context "account" ["order", "archive"] = ["order"] ∧
    orderTypes.Leaves Digest.blake3 "account" ["order", "archive"] "order" 2 "account"
      ["order", "archive"] ∧
    orderTypes.plainDigest Digest.blake3 "account" ["order", "orders"] =
      orderTypes.plainDigest Digest.blake3 "account" ["order", "archive"] := by
  have orders := resolutionPath_account "orders" (by decide) ⟨_, rfl, by decide⟩
  have archive := resolutionPath_account "archive" (by decide) ⟨_, rfl, by decide⟩
  have orders_context := context_account "orders" (by decide)
  have archive_context := context_account "archive" (by decide)
  have same := orders_context.trans archive_context.symm
  refine ⟨orders, archive, orders_context, archive_context, ?_, ?_⟩
  · exact {
      walked := .here
      names := ⟨_, rfl, by decide⟩
      recorded := TypeScope.plainDigest_of_idxOf? (by decide)
      beyond := by decide }
  · exact (context_decides_what_is_below Digest.blake3 orderTypes orders archive same).2.1

end Canonicalizer
end StorageLayout
