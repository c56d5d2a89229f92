import StorageLayout.Proofs.Fingerprint.Clique
import StorageLayout.Proofs.Json.RoundTrip
import StorageLayout.Proofs.TypeDefinition.Relabeling

/-!
# A hash captures the shape of a type

The text that is hashed for an entry is the compact JSON form of its node, with the hashes of the
entries it refers to. Unless two of these texts have one hash, equal hashes therefore mean equal
texts, equal nodes and equal hashes below, all the way down: walks in lockstep from two keys of one
hash never see a difference, and the shapes of the keys are equal. Nothing else enters the hash.
-/
namespace StorageLayout

namespace TypeScope

/-- The text that is hashed for an entry below a path of ancestors. -/
def hashedText (s : TypeScope) (hash : String → String) (key : String) (path : List String)
    (definition : TypeDefinition) : String :=
  (Json.object ((definition.node.map fun reference =>
    s.plainDigest hash reference (key :: path)).json ChildRef.json)).compact

/-- The texts that are hashed for a reference below a path: that of its entry, and those of all that
the entry refers to. -/
inductive Hashes (s : TypeScope) (hash : String → String) :
    String × List String → String → Prop where
  | entry {key : String} {path : List String} {definition : TypeDefinition}
      (fresh : key ∉ path) (entered : s.find? key = some definition) :
      Hashes s hash (key, path) (s.hashedText hash key path definition)
  | reference {key reference text : String} {path : List String} {definition : TypeDefinition}
      (fresh : key ∉ path) (entered : s.find? key = some definition)
      (listed : reference ∈ definition.node.references)
      (hashed : Hashes s hash (reference, key :: path) text) :
      Hashes s hash (key, path) text

variable {s t : TypeScope} {hash : String → String}

theorem json_plainDigest_of_find? {key : String} {path : List String} {definition : TypeDefinition}
    (fresh : key ∉ path) (entered : s.find? key = some definition) :
    (s.plainDigest hash key path).json =
      .object [("digest", .text (hash (s.hashedText hash key path definition)))] := by
  rw [plainDigest_of_find? fresh entered]
  rfl

/-- What is hashed for a reference to an entry is the text of the entry, or is hashed below it. -/
theorem Hashes.of_find? {key text : String} {path : List String} {definition : TypeDefinition}
    (entered : s.find? key = some definition) (hashed : s.Hashes hash (key, path) text) :
    text = s.hashedText hash key path definition ∨
      ∃ reference ∈ definition.node.references, s.Hashes hash (reference, key :: path) text := by
  cases hashed with
  | entry _ entered' =>
    obtain rfl := Option.some.inj (entered.symm.trans entered')
    exact Or.inl rfl
  | reference _ entered' listed hashed =>
    obtain rfl := Option.some.inj (entered.symm.trans entered')
    exact Or.inr ⟨_, listed, hashed⟩

/-- What is hashed at a place of a walk is hashed for its start. -/
theorem Lockstep.hashes {root root' place place' : String × List String}
    (reached : Lockstep s t root root' place place') {text : String} :
    (s.Hashes hash place text → s.Hashes hash root text) ∧
      (t.Hashes hash place' text → t.Hashes hash root' text) := by
  induction reached with
  | here => exact ⟨id, id⟩
  | next position _ fresh fresh' entered entered' listed listed' ih =>
    constructor
    · intro hashed
      exact ih.1 (.reference fresh entered (List.mem_of_getElem? listed) hashed)
    · intro hashed
      exact ih.2 (.reference fresh' entered' (List.mem_of_getElem? listed') hashed)

/-- Equal hashes of entries come from nodes with equal hashes below them. -/
theorem map_plainDigest_eq {key key' : String} {path path' : List String}
    {definition definition' : TypeDefinition}
    (injective : Set.InjOn hash {text | s.Hashes hash (key, path) text ∨
      t.Hashes hash (key', path') text})
    (fresh : key ∉ path) (fresh' : key' ∉ path')
    (entered : s.find? key = some definition) (entered' : t.find? key' = some definition')
    (same : (s.plainDigest hash key path).json = (t.plainDigest hash key' path').json) :
    definition.node.map (fun reference => (s.plainDigest hash reference (key :: path)).json) =
      definition'.node.map fun reference =>
        (t.plainDigest hash reference (key' :: path')).json := by
  rw [json_plainDigest_of_find? fresh entered, json_plainDigest_of_find? fresh' entered'] at same
  have hashes : hash (s.hashedText hash key path definition) =
      hash (t.hashedText hash key' path' definition') := by
    simpa using same
  have texts := injective (Or.inl (.entry fresh entered)) (Or.inr (.entry fresh' entered')) hashes
  have members := Json.object.inj (Json.compact_injective texts)
  have nodes := TypeNode.json_eq_json_iff.1 members
  rwa [TypeNode.map_map, TypeNode.map_map] at nodes

/-- Equal hashes are found in lockstep. -/
theorem Lockstep.json_plainDigest_eq {root root' place place' : String × List String}
    (reached : Lockstep s t root root' place place')
    (injective : Set.InjOn hash {text | s.Hashes hash root text ∨ t.Hashes hash root' text})
    (same : (s.plainDigest hash root.1 root.2).json = (t.plainDigest hash root'.1 root'.2).json) :
    (s.plainDigest hash place.1 place.2).json = (t.plainDigest hash place'.1 place'.2).json := by
  induction reached with
  | here => exact same
  | next position reached fresh fresh' entered entered' listed listed' ih =>
    -- What is hashed here is hashed below the roots, so that injectivity comes down with the walk.
    have injective_here := injective.mono fun text =>
      Or.imp (Lockstep.hashes reached).1 (Lockstep.hashes reached).2
    exact TypeNode.eq_of_map_eq_map
      (map_plainDigest_eq injective_here fresh fresh' entered entered' ih) listed listed'

/-- Where hashes are equal, so are the pieces. -/
theorem piece_eq_of_json_plainDigest_eq {key key' : String} {path path' : List String}
    (injective : Set.InjOn hash {text | s.Hashes hash (key, path) text ∨
      t.Hashes hash (key', path') text})
    (same : (s.plainDigest hash key path).json = (t.plainDigest hash key' path').json) :
    s.piece key path = t.piece key' path' := by
  rcases kind_of_reference s key path with
    ⟨above, found⟩ | ⟨fresh, absent⟩ | ⟨fresh, definition, entered⟩ <;>
  rcases kind_of_reference t key' path' with
    ⟨above', found'⟩ | ⟨fresh', absent'⟩ | ⟨fresh', definition', entered'⟩
  · rw [plainDigest_of_idxOf? found, plainDigest_of_idxOf? found'] at same
    rw [piece_of_idxOf? found, piece_of_idxOf? found']
    simpa [ChildRef.json] using same
  · rw [plainDigest_of_idxOf? found, plainDigest_of_absent fresh' absent'] at same
    simp [ChildRef.json] at same
  · rw [plainDigest_of_idxOf? found, json_plainDigest_of_find? fresh' entered'] at same
    simp [ChildRef.json] at same
  · rw [plainDigest_of_absent fresh absent, plainDigest_of_idxOf? found'] at same
    simp [ChildRef.json] at same
  · rw [plainDigest_of_absent fresh absent, plainDigest_of_absent fresh' absent'] at same
    rw [piece_of_absent fresh absent, piece_of_absent fresh' absent']
    simpa [ChildRef.json] using same
  · rw [plainDigest_of_absent fresh absent, json_plainDigest_of_find? fresh' entered'] at same
    simp [ChildRef.json] at same
  · rw [json_plainDigest_of_find? fresh entered, plainDigest_of_idxOf? found'] at same
    simp [ChildRef.json] at same
  · rw [json_plainDigest_of_find? fresh entered, plainDigest_of_absent fresh' absent'] at same
    simp [ChildRef.json] at same
  · rw [piece_of_find? fresh entered, piece_of_find? fresh' entered']
    have nodes := map_plainDigest_eq injective fresh fresh' entered entered' same
    rw [(TypeNode.map_eq_map_iff.1 nodes).1]

/-- Types of one hash look alike from every walk. -/
theorem alike_of_json_plainDigest_eq {root root' : String × List String}
    (injective : Set.InjOn hash {text | s.Hashes hash root text ∨ t.Hashes hash root' text})
    (same : (s.plainDigest hash root.1 root.2).json = (t.plainDigest hash root'.1 root'.2).json) :
    Alike s t root root' := by
  intro place place' reached
  have injective_here := injective.mono fun text => Or.imp reached.hashes.1 reached.hashes.2
  exact piece_eq_of_json_plainDigest_eq injective_here (reached.json_plainDigest_eq injective same)

end TypeScope

namespace Canonicalizer

open TypeScope

/-- A root digest that is given is the plain one, whatever was asked before. -/
theorem plainDigest_of_rootDigest {hash : String → String} {s : TypeScope} {calls : List String}
    {key : String} {root : NodeDigest}
    (given : (((ofScope hash s).rootDigest key).run ((ofScope hash s).memoAfter calls)).1 =
      .ok root) :
    s.types.contains key ∧ s.plainDigest hash key [] = .digest root := by
  have faithful := faithful_ofScope hash s
  cases entered : s.find? key with
  | some definition =>
    have plain : s.plainDigest hash key [] = .digest _ :=
      plainDigest_of_find? List.not_mem_nil entered
    have sound := sound_memoAfter faithful calls
    have same := (yields_rootDigest faithful plain _ sound).2 root given
    exact ⟨Option.isSome_iff_exists.2 ⟨definition, entered⟩, same ▸ plain⟩
  | none =>
    have fails : (ofScope hash s).rootDigest key = throw (s.notFound key) := by
      unfold rootDigest
      rw [show (ofScope hash s).find? key = none from entered]
      rfl
    rw [fails, Stateful.run_throw] at given
    cases given

/-- Unless hashed texts collide, two root hashes are equal exactly when the shapes are: a difference
that some walk meets changes the hash, and other keys, labels and contracts do not. -/
theorem rootDigest_hash_eq_iff_shape_eq (hash : String → String) (s t : TypeScope)
    (calls calls' : List String) {key key' : String} {root root' : NodeDigest}
    (given : (((ofScope hash s).rootDigest key).run ((ofScope hash s).memoAfter calls)).1 =
      .ok root)
    (given' : (((ofScope hash t).rootDigest key').run ((ofScope hash t).memoAfter calls')).1 =
      .ok root')
    (injective : Set.InjOn hash {text | s.Hashes hash (key, []) text ∨
      t.Hashes hash (key', []) text}) :
    (root.hash = root'.hash ↔ s.shape key = t.shape key') ∧
      (∀ place place', Lockstep s t (key, []) (key', []) place place' →
        s.piece place.1 place.2 ≠ t.piece place'.1 place'.2 → root.hash ≠ root'.hash) ∧
      (∀ rename, s.Relabels t rename → key' = rename key → root = root') := by
  obtain ⟨entry, plain⟩ := plainDigest_of_rootDigest given
  obtain ⟨-, plain'⟩ := plainDigest_of_rootDigest given'
  have alike_of_hash : root.hash = root'.hash → Alike s t (key, []) (key', []) := by
    intro same
    apply alike_of_json_plainDigest_eq injective
    simp only [plain, plain', ChildRef.json, same]
  have root_of_alike : Alike s t (key, []) (key', []) → root = root' := by
    intro alike
    have same := inline_eq_of_alike (ChildRef.inlining hash) alike
    exact ChildRef.digest.inj (plain.symm.trans (same.trans plain'))
  refine ⟨⟨fun same => ?_, fun same => ?_⟩, fun place place' reached differ same => ?_, ?_⟩
  · exact shapeBelow_eq_iff_alike.2 (alike_of_hash same)
  · rw [root_of_alike (shapeBelow_eq_iff_alike.1 same)]
  · exact differ (alike_of_hash same place place' reached)
  · rintro rename relabels rfl
    exact root_of_alike (relabels.alike entry)

section Nodes

variable {ρ : Type}

def boolNode : TypeNode ρ := ⟨.inplace, "1", none, none, none, none⟩

def arrayNode (element : ρ) : TypeNode ρ := ⟨.dynamicArray, "32", none, none, none, some element⟩

def mappingNode (key value : ρ) : TypeNode ρ := ⟨.mapping, "32", some key, none, some value, none⟩

end Nodes

/-- The entry of a node without members. -/
def entryOf (label : String) (n : TypeNode String) : TypeDefinition :=
  ⟨n.encoding, label, n.numberOfBytes, n.key, none, n.value, n.base⟩

section Map

variable {ρ : Type} (f : String → ρ) (label first second : String)

theorem map_bool : (entryOf label boolNode).node.map f = boolNode := rfl

theorem map_array :
    (entryOf label (arrayNode first)).node.map f = arrayNode (f first) := rfl

theorem map_mapping :
    (entryOf label (mappingNode first second)).node.map f = mappingNode (f first) (f second) := rfl

end Map

/-- The keys of two types, which the compiler may number either way. -/
def numbered (swapped : Bool) : String := if swapped then "t_98" else "t_12"

/-- A list inside a list, and a mapping from the outer list to whichever of them has the lower
number. -/
def listTypes (swapped : Bool) : TypeScope where
  contract := "Vault"
  types := {
    entries := [("t_table", entryOf "table" (mappingNode (numbered swapped) (numbered false))),
      (numbered swapped, entryOf "bool[][]" (arrayNode (numbered !swapped))),
      (numbered !swapped, entryOf "bool[]" (arrayNode "t_bool")),
      ("t_bool", entryOf "bool" boolNode)]
    keys_distinct := by cases swapped <;> decide }

def boolDigest : NodeDigest :=
  ⟨"98ca1dd09b72d3188d7a8cbc9b4af2a94f9229f286bb1c3c003fbafc4bd4bacf", 1⟩

def innerDigest : NodeDigest :=
  ⟨"e9177dffebe65d6b6348566de68aa333ba6234af71f95e181d4db16ed6f21144", 2⟩

def outerDigest : NodeDigest :=
  ⟨"a6ba7007f3e4b74a4c4416d943d45f50bb9bb629d8104c3e89bf560b05d69afc", 3⟩

def tableDigest (swapped : Bool) : NodeDigest :=
  .ofNode Digest.blake3 (mappingNode (.digest outerDigest)
    (.digest (if swapped then innerDigest else outerDigest)))

/-- The digests of the types, from the inside out. -/
theorem digests_of_nodes :
    NodeDigest.ofNode Digest.blake3 boolNode = boolDigest ∧
    NodeDigest.ofNode Digest.blake3 (arrayNode (.digest boolDigest)) = innerDigest ∧
    NodeDigest.ofNode Digest.blake3 (arrayNode (.digest innerDigest)) = outerDigest ∧
    (tableDigest false).fingerprint = "9934ba3164e1" ∧
    (tableDigest true).fingerprint = "b8f56e575c39" := by
  refine ⟨?_, ?_, ?_, ?_, ?_⟩
  all_goals
    simp (disch := decide +kernel) only [tableDigest, mappingNode, arrayNode, boolNode,
      NodeDigest.ofNode, NodeDigest.fingerprint, TypeNode.json, ChildRef.json, boolDigest,
      innerDigest, outerDigest, Json.optionalMember, Json.compact, Json.write, Json.writeMembers,
      Json.Style.compact, Json.pushQuoted_of_plain, Encoding.name, Option.map, List.nil_append,
      List.cons_append, List.append_nil, String.reduceAppend, Bool.false_eq_true, if_true, if_false]
    decide +kernel

section ListTypes

variable (swapped : Bool)

theorem find?_table : (listTypes swapped).find? "t_table" =
    some (entryOf "table" (mappingNode (numbered swapped) (numbered false))) := by
  cases swapped <;> rfl

theorem find?_outer : (listTypes swapped).find? (numbered swapped) =
    some (entryOf "bool[][]" (arrayNode (numbered !swapped))) := by
  cases swapped <;> rfl

theorem find?_inner : (listTypes swapped).find? (numbered !swapped) =
    some (entryOf "bool[]" (arrayNode "t_bool")) := by
  cases swapped <;> rfl

theorem find?_bool : (listTypes swapped).find? "t_bool" = some (entryOf "bool" boolNode) := by
  cases swapped <;> rfl

variable {path : List String} {text : String}

theorem plainDigest_bool (fresh : "t_bool" ∉ path) :
    (listTypes swapped).plainDigest Digest.blake3 "t_bool" path = .digest boolDigest := by
  rw [plainDigest_of_find? fresh (find?_bool swapped), map_bool, digests_of_nodes.1]

theorem bool_not_mem_cons (fresh : "t_bool" ∉ path) : "t_bool" ∉ numbered swapped :: path :=
  List.not_mem_cons_of_ne_of_not_mem (by cases swapped <;> decide) fresh

theorem plainDigest_inner (fresh : ∀ key ∈ [numbered !swapped, "t_bool"], key ∉ path) :
    (listTypes swapped).plainDigest Digest.blake3 (numbered !swapped) path =
      .digest innerDigest := by
  obtain ⟨-, inner, -⟩ := digests_of_nodes
  rw [plainDigest_of_find? (fresh _ (by simp)) (find?_inner swapped), map_array,
    plainDigest_bool swapped (bool_not_mem_cons _ (fresh _ (by simp))), inner]

theorem plainDigest_outer
    (fresh : ∀ key ∈ [numbered swapped, numbered !swapped, "t_bool"], key ∉ path) :
    (listTypes swapped).plainDigest Digest.blake3 (numbered swapped) path =
      .digest outerDigest := by
  obtain ⟨-, -, outer, -⟩ := digests_of_nodes
  have fresh_below : ∀ key ∈ [numbered !swapped, "t_bool"], key ∉ numbered swapped :: path :=
    fun key listed => List.not_mem_cons_of_ne_of_not_mem
      (by revert key; cases swapped <;> decide) (fresh key (List.mem_cons_of_mem _ listed))
  rw [plainDigest_of_find? (fresh _ (by simp)) (find?_outer swapped), map_array,
    plainDigest_inner swapped fresh_below, outer]

def nodeText (n : TypeNode ChildRef) : String := (Json.object (n.json ChildRef.json)).compact

def listTexts : List String :=
  [nodeText (arrayNode (.digest innerDigest)), nodeText (arrayNode (.digest boolDigest)),
    nodeText boolNode]

theorem mem_listTexts_of_hashes_bool
    (hashed : (listTypes swapped).Hashes Digest.blake3 ("t_bool", path) text) :
    text ∈ listTexts := by
  rcases hashed.of_find? (find?_bool swapped) with rfl | ⟨_, listed, -⟩
  · rw [hashedText, map_bool]
    exact .tail _ (.tail _ (.head _))
  · cases listed

theorem mem_listTexts_of_hashes_inner (fresh : "t_bool" ∉ path)
    (hashed : (listTypes swapped).Hashes Digest.blake3 (numbered !swapped, path) text) :
    text ∈ listTexts := by
  rcases hashed.of_find? (find?_inner swapped) with rfl | ⟨_, listed, hashed⟩
  · rw [hashedText, map_array, plainDigest_bool swapped (bool_not_mem_cons _ fresh)]
    exact .tail _ (.head _)
  · obtain rfl := List.mem_singleton.1 listed
    exact mem_listTexts_of_hashes_bool swapped hashed

/-- The outer list, the inner list and the flag are hashed, and nothing else. -/
theorem mem_listTexts_of_hashes_outer
    (hashed : (listTypes swapped).Hashes Digest.blake3 (numbered swapped, []) text) :
    text ∈ listTexts := by
  rcases hashed.of_find? (find?_outer swapped) with rfl | ⟨_, listed, hashed⟩
  · rw [hashedText, map_array, plainDigest_inner swapped (by cases swapped <;> decide)]
    exact .head _
  · obtain rfl := List.mem_singleton.1 listed
    exact mem_listTexts_of_hashes_inner swapped (by cases swapped <;> decide) hashed

end ListTypes

theorem injOn_listTexts : Set.InjOn Digest.blake3 {text | text ∈ listTexts} := by
  obtain ⟨bool, inner, outer, -⟩ := digests_of_nodes
  have hashes : listTexts.map Digest.blake3 =
      [outerDigest.hash, innerDigest.hash, boolDigest.hash] := by
    rw [← bool, ← inner, ← outer]
    rfl
  have apart : (listTexts.map Digest.blake3).Nodup := by
    rw [hashes]
    decide
  exact fun text listed other listed' same => List.inj_on_of_nodup_map apart listed listed' same

/-- The outer list has one hash under both keys, as it has one shape; the key that stands for the
outer list in one numbering and for the inner list in the other has two hashes, as it has two
shapes. -/
theorem listTypes_hash_eq_iff_shape_eq :
    (((ofScope Digest.blake3 (listTypes false)).rootDigest "t_12").run
      ((ofScope Digest.blake3 (listTypes false)).memoAfter [])).1 = .ok outerDigest ∧
    (((ofScope Digest.blake3 (listTypes true)).rootDigest "t_98").run
      ((ofScope Digest.blake3 (listTypes true)).memoAfter [])).1 = .ok outerDigest ∧
    (((ofScope Digest.blake3 (listTypes true)).rootDigest "t_12").run
      ((ofScope Digest.blake3 (listTypes true)).memoAfter [])).1 = .ok innerDigest ∧
    (listTypes false).shape "t_12" = (listTypes true).shape "t_98" ∧
    outerDigest.hash ≠ innerDigest.hash ∧
    (listTypes false).shape "t_12" ≠ (listTypes true).shape "t_12" := by
  have given (swapped : Bool) := run_rootDigest_of_few
    (faithful_ofScope Digest.blake3 (listTypes swapped)) (by cases swapped <;> decide)
    (plainDigest_outer swapped (by cases swapped <;> decide))
  have given_inner := run_rootDigest_of_few (faithful_ofScope Digest.blake3 (listTypes true))
    (by decide) (plainDigest_inner true (by decide))
  have injective := injOn_listTexts.mono fun text (hashed :
      (listTypes false).Hashes Digest.blake3 ("t_12", []) text ∨
        (listTypes true).Hashes Digest.blake3 ("t_98", []) text) =>
    hashed.elim (mem_listTexts_of_hashes_outer false) (mem_listTexts_of_hashes_outer true)
  have injective' := injOn_listTexts.mono fun text (hashed :
      (listTypes false).Hashes Digest.blake3 ("t_12", []) text ∨
        (listTypes true).Hashes Digest.blake3 ("t_12", []) text) =>
    hashed.elim (mem_listTexts_of_hashes_outer false)
      (mem_listTexts_of_hashes_inner true List.not_mem_nil)
  have renamed := rootDigest_hash_eq_iff_shape_eq Digest.blake3 (listTypes false) (listTypes true)
    [] [] (given false) (given true) injective
  have other := rootDigest_hash_eq_iff_shape_eq Digest.blake3 (listTypes false) (listTypes true)
    [] [] (given false) given_inner injective'
  -- One step below the key there is a list in one numbering and a flag in the other.
  have reached : Lockstep (listTypes false) (listTypes true) ("t_12", []) ("t_12", [])
      ("t_98", ["t_12"]) ("t_bool", ["t_12"]) :=
    .next 0 .here List.not_mem_nil List.not_mem_nil (find?_outer false) (find?_inner true) rfl rfl
  have apart : outerDigest.hash ≠ innerDigest.hash := by
    have list : (listTypes false).piece "t_98" ["t_12"] = _ :=
      piece_of_find? (by decide) (find?_inner false)
    have flag : (listTypes true).piece "t_bool" ["t_12"] = _ :=
      piece_of_find? (by decide) (find?_bool true)
    refine other.2.1 _ _ reached ?_
    rw [list, flag]
    exact nofun
  exact ⟨given false, given true, given_inner, renamed.1.1 rfl, apart,
    fun same => apart (other.1.2 same)⟩

end Canonicalizer
end StorageLayout
