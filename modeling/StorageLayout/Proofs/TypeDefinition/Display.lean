import StorageLayout.Proofs.Json.RoundTrip
import StorageLayout.Proofs.TypeDefinition.Skeleton
import StorageLayout.TypeDefinition.Display

/-!
# What a display says

A display is read back from its JSON form: text, number, object with a label and object with a key
cannot be taken for one another, and a node is told by its skeleton and its references. The display
of a type does not say which keys stand for the types that it expands.
-/
namespace StorageLayout

/-- What a node refers to is smaller than the node, so that displays can be taken apart by
recursion. -/
theorem TypeNode.sizeOf_lt_of_mem_references {ρ : Type} [SizeOf ρ] {n : TypeNode ρ} {reference : ρ}
    (referred : reference ∈ n.references) : sizeOf reference < sizeOf n := by
  obtain ⟨encoding, bytes, key, members, value, base⟩ := n
  have on_option {o : Option ρ} (listed : reference ∈ o.toList) : sizeOf reference < sizeOf o := by
    obtain rfl := Option.mem_toList.1 listed
    simp
  have on_members (listed : reference ∈ (members.getD []).map NodeMember.type) :
      sizeOf reference < sizeOf members := by
    cases members with
    | none => simp at listed
    | some members =>
      rw [Option.getD_some] at listed
      obtain ⟨member, inside, rfl⟩ := List.mem_map.1 listed
      have smaller := List.sizeOf_lt_of_mem inside
      have part : sizeOf member.type < sizeOf member := by
        cases member
        simp
      rw [Option.some.sizeOf_spec]
      omega
  rw [TypeNode.mk.sizeOf_spec]
  simp only [references, List.mem_append] at referred
  rcases referred with ((listed | listed) | listed) | listed
  · have := on_option listed
    omega
  · have := on_members listed
    omega
  · have := on_option listed
    omega
  · have := on_option listed
    omega

namespace TypeRef

theorem optionJson_eq (name : String) (reference : Option TypeRef) :
    optionJson name reference = Json.optionalMember name (reference.map json) := by
  cases reference <;> rfl

theorem membersJson_eq (members : List (NodeMember TypeRef)) :
    membersJson members = members.map (TypeNode.memberJson json) := by
  induction members with
  | nil => rfl
  | cons member rest ih =>
    obtain ⟨label, offset, slot, type⟩ := member
    rw [membersJson, ih, memberJson]
    rfl

theorem nodeJson_eq (node : TypeNode TypeRef) : nodeJson node = node.json json := by
  obtain ⟨encoding, bytes, key, members, value, base⟩ := node
  simp only [nodeJson, TypeNode.json, optionJson_eq]
  cases members with
  | none => rfl
  | some members =>
    rw [optionMembersJson, membersJson_eq]
    rfl

theorem json_expanded (label : String) (node : TypeNode TypeRef) :
    (expanded label node).json = .object (("label", .text label) :: node.json json) := by
  rw [json, nodeJson_eq]

/-- References with one JSON form are shown alike. -/
theorem eq_of_json_eq {type type' : TypeRef} (same : type.json = type'.json) : type = type' := by
  match type, type' with
  | expanded label node, expanded label' node' =>
    simp only [json_expanded, Json.object.injEq, List.cons.injEq, Prod.mk.injEq, Json.text.injEq,
      true_and] at same
    obtain ⟨rfl, nodes⟩ := same
    obtain ⟨skeletons, references⟩ := TypeNode.map_eq_map_iff.1 (TypeNode.json_eq_json_iff.1 nodes)
    have types : node.references.map id = node'.references.map id := by
      refine map_eq_map_of_imp references fun type member type' _ same_below => ?_
      have smaller := TypeNode.sizeOf_lt_of_mem_references member
      change type = type'
      exact eq_of_json_eq same_below
    rw [List.map_id, List.map_id] at types
    rw [TypeNode.eq_of_skeleton_eq skeletons types]
  | unresolved key, unresolved key' =>
    simpa [json] using same
  | recursive levels, recursive levels' =>
    simpa [json] using same
  | repeated key, repeated key' =>
    simpa [json] using same
  | expanded _ _, unresolved _ | expanded _ _, recursive _ | unresolved _, expanded _ _
  | unresolved _, recursive _ | unresolved _, repeated _ | recursive _, expanded _ _
  | recursive _, unresolved _ | recursive _, repeated _ | repeated _, unresolved _
  | repeated _, recursive _ | expanded _ _, repeated _ | repeated _, expanded _ _ =>
    simp [json] at same
termination_by sizeOf type
decreasing_by
  rw [TypeRef.expanded.sizeOf_spec]
  omega

/-- A key stands in a display for a type that was expanded before. -/
inductive Shows : TypeRef → String → Prop where
  | repeated {key : String} : Shows (.repeated key) key
  | inside {label key : String} {node : TypeNode TypeRef} {type : TypeRef}
      (listed : type ∈ node.references) (shows : Shows type key) : Shows (.expanded label node) key

end TypeRef

namespace DisplayType

/-- A key stands in the display of a type for a type that was expanded before. -/
def Shows (t : DisplayType) (key : String) : Prop := ∃ type ∈ t.node.references, type.Shows key

/-- Displays of one text are the same. -/
theorem eq_of_indented_eq {t t' : DisplayType} (same : t.json.indented = t'.json.indented) :
    t = t' := by
  have types := TypeRef.eq_of_json_eq (Json.indented_injective same)
  cases t
  cases t'
  simpa using types

end DisplayType
end StorageLayout
