import StorageLayout.Json.Basic
import StorageLayout.TypeDefinition.Basic

/-!
# The structure of a type

A node is what a type definition says about the layout: encoding, size, and the labels and places
of members, but neither the label that the compiler shows for the type nor the contract that
declares it. It is the same for every kind of reference, so that keys can be replaced by what they
refer to.
-/
namespace StorageLayout

/-- A struct member whose type is given by a reference. -/
structure NodeMember (ρ : Type) where
  label : String
  offset : UInt64
  slot : String
  type : ρ

/-- The structure of a type whose parts are given by references. -/
structure TypeNode (ρ : Type) where
  encoding : Encoding
  numberOfBytes : String
  key : Option ρ
  members : Option (List (NodeMember ρ))
  value : Option ρ
  base : Option ρ

namespace TypeNode

variable {ρ σ : Type}

/-- The references of a node: of its key, members, value and base. -/
def references (n : TypeNode ρ) : List ρ :=
  n.key.toList ++ (n.members.getD []).map NodeMember.type ++ n.value.toList ++ n.base.toList

/-- Replaces each reference of a member list, in order. -/
def replaceMembers {m : Type → Type} [Monad m] (f : ρ → m σ) :
    List (NodeMember ρ) → m (List (NodeMember σ))
  | [] => pure []
  | member :: rest => do
    let type ← f member.type
    let rest ← replaceMembers f rest
    return ⟨member.label, member.offset, member.slot, type⟩ :: rest

def replaceOption {m : Type → Type} [Monad m] (f : ρ → m σ) : Option ρ → m (Option σ)
  | none => pure none
  | some reference => some <$> f reference

def replaceOptionalMembers {m : Type → Type} [Monad m] (f : ρ → m σ) :
    Option (List (NodeMember ρ)) → m (Option (List (NodeMember σ)))
  | none => pure none
  | some members => some <$> replaceMembers f members

/-- Replaces each reference: first the key's, then the members', the value's and the base's. -/
def replace {m : Type → Type} [Monad m] (f : ρ → m σ) (n : TypeNode ρ) : m (TypeNode σ) := do
  let key ← replaceOption f n.key
  let members ← replaceOptionalMembers f n.members
  let value ← replaceOption f n.value
  let base ← replaceOption f n.base
  return ⟨n.encoding, n.numberOfBytes, key, members, value, base⟩

/-- Replaces each reference: first the members', then the key's, the value's and the base's. -/
def replaceMembersFirst {m : Type → Type} [Monad m] (f : ρ → m σ) (n : TypeNode ρ) :
    m (TypeNode σ) := do
  let members ← replaceOptionalMembers f n.members
  let key ← replaceOption f n.key
  let value ← replaceOption f n.value
  let base ← replaceOption f n.base
  return ⟨n.encoding, n.numberOfBytes, key, members, value, base⟩

def memberJson (f : ρ → Json) (member : NodeMember ρ) : Json :=
  .object [("label", .text member.label), ("offset", .natural member.offset.toNat),
    ("slot", .text member.slot), ("type", f member.type)]

/-- The members of a node's JSON form, given that of its references. -/
def json (f : ρ → Json) (n : TypeNode ρ) : List (String × Json) :=
  [("encoding", .text n.encoding.name), ("numberOfBytes", .text n.numberOfBytes)] ++
    Json.optionalMember "key" (n.key.map f) ++
    Json.optionalMember "members" (n.members.map fun members =>
      .list (members.map (memberJson f))) ++
    Json.optionalMember "value" (n.value.map f) ++
    Json.optionalMember "base" (n.base.map f)

end TypeNode

/-- The structure of a type definition. -/
def TypeDefinition.node (d : TypeDefinition) : TypeNode String where
  encoding := d.encoding
  numberOfBytes := d.numberOfBytes
  key := d.key
  members := d.members.map fun members =>
    members.map fun m => ⟨m.label, m.offset, m.slot, m.typeKey⟩
  value := d.value
  base := d.base

end StorageLayout
