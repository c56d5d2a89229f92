import Mathlib.Data.List.Forall2
import StorageLayout.Proofs.TypeDefinition.Inlining

/-!
# What a node says itself

A node is its skeleton, which has all but the references, together with the list of its references.
The JSON form of a node keeps both: fields that are left out cannot be taken for one another, and
no two encodings have one name. Of a definition the node keeps all but its label and the contracts
of its members.
-/
namespace StorageLayout

/-- Two lists that agree through one pair of functions agree through another if elements do. -/
theorem map_eq_map_of_imp {α β γ δ : Type} {f : α → γ} {g : β → γ} {f' : α → δ} {g' : β → δ}
    {as : List α} {bs : List β} (same : as.map f = bs.map g)
    (imp : ∀ a ∈ as, ∀ b ∈ bs, f a = g b → f' a = g' b) : as.map f' = bs.map g' := by
  induction as generalizing bs with
  | nil =>
    obtain rfl : bs = [] := by simpa using same
    rfl
  | cons a as ih =>
    obtain ⟨b, bs, rfl⟩ : ∃ b rest, bs = b :: rest := by
      cases bs with
      | nil => simp at same
      | cons b rest => exact ⟨b, rest, rfl⟩
    rw [List.map_cons, List.map_cons, List.cons.injEq] at same
    have head : f' a = g' b := imp a (by simp) b (by simp) same.1
    have tail : as.map f' = bs.map g' :=
      ih same.2 fun a' member b' member' => imp a' (by simp [member]) b' (by simp [member'])
    rw [List.map_cons, List.map_cons, head, tail]

namespace NodeMember

variable {ρ : Type}

/-- Members are the same if they agree without their types, and their types agree. -/
theorem eq_of_map_eq {members others : List (NodeMember ρ)}
    (skeletons : members.map (map fun _ => ()) = others.map (map fun _ => ()))
    (types : members.map type = others.map type) : members = others := by
  induction members generalizing others with
  | nil => simpa using types.symm
  | cons m rest ih =>
    cases others with
    | nil => simp at types
    | cons m' rest' =>
      obtain ⟨label, offset, slot, type⟩ := m
      obtain ⟨label', offset', slot', type'⟩ := m'
      simp only [List.map_cons, List.cons.injEq, map, mk.injEq] at skeletons types
      obtain ⟨⟨rfl, rfl, rfl, -⟩, skeletons⟩ := skeletons
      obtain ⟨rfl, types⟩ := types
      rw [ih skeletons types]

end NodeMember

namespace TypeNode

variable {ρ σ τ : Type}

/-- The node without its references: which there are, but not what they refer to. -/
def skeleton (n : TypeNode ρ) : TypeNode Unit := n.map fun _ => ()

theorem skeleton_map (f : ρ → σ) (n : TypeNode ρ) : (n.map f).skeleton = n.skeleton := by
  unfold skeleton
  exact map_map f _ n

theorem length_references_of_skeleton_eq {n : TypeNode ρ} {m : TypeNode σ}
    (skeletons : n.skeleton = m.skeleton) : n.references.length = m.references.length := by
  have lengths := congrArg (fun k => k.references.length) skeletons
  unfold skeleton at lengths
  simpa only [references_map, List.length_map] using lengths

/-- A node is its skeleton with its references, which the skeleton tells apart by their number. -/
theorem eq_of_skeleton_eq {n m : TypeNode ρ} (skeletons : n.skeleton = m.skeleton)
    (references : n.references = m.references) : n = m := by
  obtain ⟨encoding, bytes, key, members, value, base⟩ := n
  obtain ⟨encoding', bytes', key', members', value', base'⟩ := m
  simp only [skeleton, map, mk.injEq] at skeletons
  obtain ⟨rfl, rfl, key_present, members_alike, value_present, base_present⟩ := skeletons
  have same_length {r r' : Option ρ} (present : r.map (fun _ => ()) = r'.map fun _ => ()) :
      r.toList.length = r'.toList.length := by
    cases r <;> cases r' <;> simp_all
  have same_reference {r r' : Option ρ} (listed : r.toList = r'.toList) : r = r' := by
    cases r <;> cases r' <;> simp_all
  have members_length : ((members.getD []).map NodeMember.type).length =
      ((members'.getD []).map NodeMember.type).length := by
    cases members <;> cases members' <;> simp at members_alike
    · rfl
    · simpa using congrArg List.length members_alike
  simp only [TypeNode.references] at references
  obtain ⟨references, bases⟩ := List.append_inj' references (same_length base_present)
  obtain ⟨references, values⟩ := List.append_inj' references (same_length value_present)
  obtain ⟨keys, types⟩ := List.append_inj' references members_length
  obtain rfl := same_reference keys
  obtain rfl := same_reference values
  obtain rfl := same_reference bases
  have same_members : members = members' := by
    cases members <;> cases members' <;> simp at members_alike
    · rfl
    · rw [NodeMember.eq_of_map_eq members_alike types]
  rw [same_members]

theorem eq_map_of_references_eq {f : ρ → σ} {n : TypeNode ρ} {m : TypeNode σ}
    (skeletons : m.skeleton = n.skeleton) (references : m.references = n.references.map f) :
    m = n.map f := by
  refine eq_of_skeleton_eq (skeletons.trans (skeleton_map f n).symm) ?_
  rw [references_map, references]

/-- Nodes agree after replacing references if they have one skeleton and the replacements agree in
order. -/
theorem map_eq_map_iff {n : TypeNode ρ} {m : TypeNode σ} {f : ρ → τ} {g : σ → τ} :
    n.map f = m.map g ↔ n.skeleton = m.skeleton ∧ n.references.map f = m.references.map g := by
  rw [← skeleton_map f n, ← skeleton_map g m, ← references_map f n, ← references_map g m]
  constructor
  · intro same
    rw [same]
    exact ⟨rfl, rfl⟩
  · rintro ⟨skeletons, references⟩
    exact eq_of_skeleton_eq skeletons references

/-- What replaces the references at one position agrees. -/
theorem eq_of_map_eq_map {n : TypeNode ρ} {m : TypeNode σ} {f : ρ → τ} {g : σ → τ}
    (same : n.map f = m.map g) {position : Nat} {r : ρ} {r' : σ}
    (listed : n.references[position]? = some r) (listed' : m.references[position]? = some r') :
    f r = g r' := by
  have replaced := congrArg (·[position]?) (map_eq_map_iff.1 same).2
  simpa [listed, listed'] using replaced

section Json

variable {f : ρ → Json} {g : σ → Json}

theorem name_injective : Function.Injective Encoding.name := by
  intro e e' same
  cases e <;> cases e' <;> simp [Encoding.name] at same ⊢

theorem memberJson_eq {m : NodeMember ρ} {m' : NodeMember σ}
    (same : memberJson f m = memberJson g m') : m.map f = m'.map g := by
  simp only [memberJson, Json.object.injEq, List.cons.injEq, Prod.mk.injEq, Json.text.injEq,
    Json.natural.injEq, true_and, and_true] at same
  obtain ⟨label, offset, slot, type⟩ := same
  rw [NodeMember.map, NodeMember.map, label, UInt64.toNat_inj.1 offset, slot, type]

theorem lookup_json_encoding (n : TypeNode ρ) :
    (n.json f).lookup "encoding" = some (.text n.encoding.name) := rfl

theorem lookup_json_bytes (n : TypeNode ρ) :
    (n.json f).lookup "numberOfBytes" = some (.text n.numberOfBytes) := rfl

theorem lookup_json_key (n : TypeNode ρ) : (n.json f).lookup "key" = n.key.map f := by
  unfold json
  cases n.key <;> cases n.members <;> cases n.value <;> cases n.base <;> rfl

theorem lookup_json_members (n : TypeNode ρ) : (n.json f).lookup "members" =
    n.members.map fun members => .list (members.map (memberJson f)) := by
  unfold json
  cases n.key <;> cases n.members <;> cases n.value <;> cases n.base <;> rfl

theorem lookup_json_value (n : TypeNode ρ) : (n.json f).lookup "value" = n.value.map f := by
  unfold json
  cases n.key <;> cases n.members <;> cases n.value <;> cases n.base <;> rfl

theorem lookup_json_base (n : TypeNode ρ) : (n.json f).lookup "base" = n.base.map f := by
  unfold json
  cases n.key <;> cases n.members <;> cases n.value <;> cases n.base <;> rfl

/-- Which members a JSON form has tells which fields the node has, and each of them gives its
value. -/
theorem map_eq_map_of_json_eq {n : TypeNode ρ} {m : TypeNode σ} (same : n.json f = m.json g) :
    n.map f = m.map g := by
  have field (name : String) : (n.json f).lookup name = (m.json g).lookup name := by rw [same]
  have encoding := field "encoding"
  have bytes := field "numberOfBytes"
  have key := field "key"
  have members := field "members"
  have value := field "value"
  have base := field "base"
  rw [lookup_json_encoding, lookup_json_encoding, Option.some.injEq, Json.text.injEq] at encoding
  rw [lookup_json_bytes, lookup_json_bytes, Option.some.injEq, Json.text.injEq] at bytes
  rw [lookup_json_key, lookup_json_key] at key
  rw [lookup_json_members, lookup_json_members] at members
  rw [lookup_json_value, lookup_json_value] at value
  rw [lookup_json_base, lookup_json_base] at base
  have listed : n.members.map (·.map (NodeMember.map f)) =
      m.members.map (·.map (NodeMember.map g)) := by
    cases own : n.members <;> cases other : m.members <;> simp [own, other] at members ⊢
    exact map_eq_map_of_imp members fun _ _ _ _ => memberJson_eq
  rw [map, map, name_injective encoding, bytes, key, listed, value, base]

theorem json_eq_json_map (n : TypeNode ρ) : n.json f = (n.map f).json id := by
  have members (m : NodeMember ρ) : memberJson id (m.map f) = memberJson f m := rfl
  unfold json map
  simp [Function.comp_def, members]

/-- The JSON form of a node tells its skeleton and the JSON forms of its references, and no more. -/
theorem json_eq_json_iff {n : TypeNode ρ} {m : TypeNode σ} :
    n.json f = m.json g ↔ n.map f = m.map g := by
  constructor
  · exact map_eq_map_of_json_eq
  · intro same
    calc
      n.json f = (n.map f).json id := json_eq_json_map n
      _ = (m.map g).json id := by rw [same]
      _ = m.json g := (json_eq_json_map m).symm

end Json

end TypeNode

/-- A member of a struct as it stands in a node: its contract is left out, and nothing else. -/
structure Member.StandsAs (m : Member) (inNode : NodeMember String) : Prop where
  label : inNode.label = m.label
  offset : inNode.offset = m.offset
  slot : inNode.slot = m.slot
  type : inNode.type = m.typeKey

theorem Member.forall₂_standsAs_iff {members : List Member} {inNode : List (NodeMember String)} :
    List.Forall₂ StandsAs members inNode ↔
      members.map (fun m => ⟨m.label, m.offset, m.slot, m.typeKey⟩) = inNode := by
  induction members generalizing inNode with
  | nil => simp [eq_comm]
  | cons m rest ih =>
    cases inNode with
    | nil => simp
    | cons n others =>
      obtain ⟨label, offset, slot, type⟩ := n
      rw [List.forall₂_cons, ih, List.map_cons, List.cons.injEq]
      refine and_congr_left' ⟨fun stands => ?_, fun same => ?_⟩
      · obtain ⟨rfl, rfl, rfl, rfl⟩ := stands
        rfl
      · obtain ⟨rfl, rfl, rfl, rfl⟩ := NodeMember.mk.inj same
        exact ⟨rfl, rfl, rfl, rfl⟩

/-- The node of a definition has its encoding, its size, its references, and the labels and places
of its members; label and contracts are left out. -/
theorem TypeDefinition.node_eq_iff (d : TypeDefinition) (n : TypeNode String) :
    d.node = n ↔ n.encoding = d.encoding ∧ n.numberOfBytes = d.numberOfBytes ∧ n.key = d.key ∧
      n.value = d.value ∧ n.base = d.base ∧
      Option.Rel (List.Forall₂ Member.StandsAs) d.members n.members := by
  have members_iff : Option.Rel (List.Forall₂ Member.StandsAs) d.members n.members ↔
      d.node.members = n.members := by
    unfold node
    cases d.members <;> cases n.members <;> simp [Member.forall₂_standsAs_iff]
  obtain ⟨encoding, bytes, key, members, value, base⟩ := n
  rw [members_iff]
  simp only [node, TypeNode.mk.injEq]
  tauto

/-- A member of a struct with another key for its type. Its contract may be another one. -/
structure Member.Renamed (rename : String → String) (old new : Member) : Prop where
  label : new.label = old.label
  offset : new.offset = old.offset
  slot : new.slot = old.slot
  typeKey : new.typeKey = rename old.typeKey

/-- Nodes correspond under new keys exactly if the definitions agree in all but their labels and the
contracts of their members, and refer to the new keys. -/
theorem TypeDefinition.node_eq_map_node_iff (rename : String → String) (old new : TypeDefinition) :
    new.node = old.node.map rename ↔
      new.encoding = old.encoding ∧ new.numberOfBytes = old.numberOfBytes ∧
      new.key = old.key.map rename ∧ new.value = old.value.map rename ∧
      new.base = old.base.map rename ∧
      Option.Rel (List.Forall₂ (Member.Renamed rename)) old.members new.members := by
  have member_iff (m m' : Member) :
      m'.StandsAs (NodeMember.map rename ⟨m.label, m.offset, m.slot, m.typeKey⟩) ↔
        m.Renamed rename m' :=
    ⟨fun ⟨label, offset, slot, type⟩ => ⟨label.symm, offset.symm, slot.symm, type.symm⟩,
      fun ⟨label, offset, slot, type⟩ => ⟨label.symm, offset.symm, slot.symm, type.symm⟩⟩
  have members_iff : Option.Rel (List.Forall₂ Member.StandsAs) new.members
      (old.node.map rename).members ↔
        Option.Rel (List.Forall₂ (Member.Renamed rename)) old.members new.members := by
    have flipped {members members' : List Member} :
        List.Forall₂ (fun m' m => m.Renamed rename m') members' members ↔
          List.Forall₂ (Member.Renamed rename) members members' := ⟨.flip, .flip⟩
    unfold node TypeNode.map
    cases old.members <;> cases new.members <;>
      simp [List.forall₂_map_right_iff, member_iff, flipped]
  rw [node_eq_iff, members_iff]
  simp only [TypeNode.map, node, eq_comm]

end StorageLayout
