import Std.Data.HashSet
import StorageLayout.TypeDefinition.Node
import StorageLayout.TypeDefinition.Scope

/-!
# Types expanded for display

For review a type is shown with its references expanded and its labels kept. A type that refers to
others is expanded once; later references to it show its key. A reference to a type that is being
expanded shows the number of levels to it, and a key that the dictionary lacks stands for itself.
-/
namespace StorageLayout

inductive TypeRef where
  /-- The type itself, expanded. -/
  | expanded (label : String) (node : TypeNode TypeRef)
  /-- A key that is not in the dictionary. -/
  | unresolved (key : String)
  /-- The number of levels up to a type that is being expanded; one is the enclosing type. -/
  | recursive (levels : Nat)
  /-- The key of a type that has been expanded before. -/
  | repeated (key : String)

structure DisplayType where
  label : String
  node : TypeNode TypeRef

namespace TypeRef

mutual

def json : TypeRef → Json
  | expanded label node => .object (("label", .text label) :: nodeJson node)
  | unresolved key => .text key
  | recursive levels => .natural levels
  | repeated key => .object [("ref", .text key)]

/-- The members of an expanded type's JSON form, after its label. -/
def nodeJson : TypeNode TypeRef → List (String × Json)
  | ⟨encoding, numberOfBytes, key, members, value, base⟩ =>
    [("encoding", .text encoding.name), ("numberOfBytes", .text numberOfBytes)] ++
      optionJson "key" key ++ optionMembersJson members ++ optionJson "value" value ++
      optionJson "base" base

/-- A reference that is left out when absent. -/
def optionJson (name : String) : Option TypeRef → List (String × Json)
  | none => []
  | some reference => [(name, reference.json)]

/-- A member list that is left out when absent. -/
def optionMembersJson : Option (List (NodeMember TypeRef)) → List (String × Json)
  | none => []
  | some members => [("members", .list (membersJson members))]

def membersJson : List (NodeMember TypeRef) → List Json
  | [] => []
  | member :: rest => memberJson member :: membersJson rest

def memberJson : NodeMember TypeRef → Json
  | ⟨label, offset, slot, type⟩ =>
    .object [("label", .text label), ("offset", .natural offset.toNat), ("slot", .text slot),
      ("type", type.json)]

end

end TypeRef

namespace DisplayType

def json (t : DisplayType) : Json := (TypeRef.expanded t.label t.node).json

/-- The label to show for a type: the label of its value type if that is expanded, otherwise its
own. -/
def displayLabel (t : DisplayType) : String :=
  match t.node.value with
  | some (.expanded label _) => label
  | _ => t.label

end DisplayType

namespace TypeScope

/-- A computation that may fail and that remembers the keys of the types expanded so far. -/
abbrev Expansion := StateT (Std.HashSet String) (Except LayoutError)

/-- Expands a type at the head of a path, with `room` levels left. -/
def expand (s : TypeScope) (room : Nat) (definition : TypeDefinition) (path : List String) :
    Expansion DisplayType :=
  match room with
  | 0 => throw (s.depthError "" path)
  | room + 1 => do
    let node ← definition.node.replaceMembersFirst fun reference => do
      match path.idxOf? reference with
      | some above => return .recursive (above + 1)
      | none =>
        match s.find? reference with
        | none => return .unresolved reference
        | some child =>
          if child.isComposite && (← get).contains reference then return .repeated reference
          else
            if child.isComposite then modify fun expanded => expanded.insert reference
            let type ← s.expand room child (reference :: path)
            return .expanded type.label type.node
    return ⟨definition.label, node⟩

/-- Expands the type of a key for display. -/
def resolve (s : TypeScope) (key : String) : Except LayoutError DisplayType :=
  match s.find? key with
  | none => .error (s.notFound key)
  | some definition =>
    (·.1) <$> (s.expand maxTypeDepth definition [key]).run (Std.HashSet.ofList [key])

end TypeScope
end StorageLayout
