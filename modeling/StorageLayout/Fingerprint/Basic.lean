import Std.Data.HashMap
import StorageLayout.TypeDefinition.Node
import StorageLayout.TypeDefinition.Reach
import StorageLayout.TypeDefinition.Scope

/-!
# Structural fingerprints

Two types are equivalent when their resolved structures are equal, whatever keys and labels the
compiler chose for them. Each type is hashed bottom-up: its node, with every reference replaced by
the hash of the type it refers to, by the bare key if the dictionary lacks it, or, if that type is
already being resolved, by the number of levels to it. The fingerprint is the start of the hash.

A hash depends on the path by which the type was reached only through the ancestors that the type
can reach again. Hashes are therefore remembered under the type's key together with the run of
such ancestors, and are shared by all paths that end in the same run. Nesting is limited, and so
is the number of hashes computed for one fingerprint.
-/
namespace StorageLayout

/-- How many hashes may be computed for one fingerprint. -/
def maxResolveSteps : Nat := 100000

def fingerprintLength : Nat := 12

/-- The hash of a type, and the number of levels from it down, itself included. -/
structure NodeDigest where
  hash : String
  height : Nat
  deriving DecidableEq, Repr

/-- What a node's hash records about one reference. -/
inductive ChildRef where
  /-- The hash of the type. -/
  | digest (child : NodeDigest)
  /-- The key, which is not in the dictionary. -/
  | unresolved (key : String)
  /-- The number of levels up to the type, which is being resolved. -/
  | recursive (levels : Nat)

namespace ChildRef

/-- The JSON form that is hashed. -/
def json : ChildRef → Json
  | digest child => .object [("digest", .text child.hash)]
  | unresolved key => .object [("unresolved", .text key)]
  | recursive levels => .object [("recursive", .natural levels)]

/-- The levels from a reference down. -/
def height : ChildRef → Nat
  | digest child => child.height
  | _ => 0

end ChildRef

/-- The hash of a node whose references are known. -/
def NodeDigest.ofNode (hash : String → String) (n : TypeNode ChildRef) : NodeDigest where
  hash := hash (Json.object (n.json ChildRef.json)).compact
  height := (n.references.map ChildRef.height).foldl max 0 + 1

/-- What fingerprints are computed with: the types of a contract, a hash function, and the keys
that each key reaches. -/
structure Canonicalizer extends TypeScope where
  hash : String → String
  reach : Std.HashMap String (Std.HashSet String)

structure Memo where
  /-- Hashes by key and by the run of ancestors that the key reaches. -/
  nodes : Std.HashMap (String × List String) NodeDigest := {}
  fingerprints : Std.HashMap String String := {}
  /-- The hashes computed for the last fingerprint. -/
  steps : Nat := 0

/-- A computation that may fail and that remembers hashes even then. -/
abbrev Resolution := ExceptT LayoutError (StateM Memo)

namespace Canonicalizer

/-- Prepares to fingerprint the types of a contract. -/
def ofScope (hash : String → String) (s : TypeScope) : Canonicalizer where
  toTypeScope := s
  hash := hash
  reach := Std.HashMap.ofList (s.types.entries.map fun (key, definition) =>
    (key, s.types.reachedFrom definition))

/-- Whether following references from one key leads to another. -/
def reaches (c : Canonicalizer) (source target : String) : Bool :=
  match c.reach[source]? with
  | some targets => targets.contains target
  | none => false

/-- The nearest ancestors of a key on a path, up to the first that the key does not reach. Paths
run from the parent to the root. -/
def context (c : Canonicalizer) (key : String) (path : List String) : List String :=
  path.takeWhile (c.reaches key ·)

def stepsError (c : Canonicalizer) (key : String) (path : List String) : LayoutError :=
  .typeTooComplex c.contract (TypeScope.rootOf key path) maxResolveSteps

def countStep (c : Canonicalizer) (key : String) (path : List String) : Resolution Unit := do
  modify fun memo => { memo with steps := memo.steps + 1 }
  if maxResolveSteps < (← get).steps then throw (c.stepsError key path)

/-- The hash of a type, reached by a path of ancestors, with `room` levels left. -/
def digest (c : Canonicalizer) (room : Nat) (key : String) (definition : TypeDefinition)
    (path : List String) : Resolution NodeDigest := do
  let place := (key, c.context key path)
  match (← get).nodes[place]? with
  | some found => if room < found.height then throw (c.depthError key path) else return found
  | none =>
    c.countStep key path
    match room with
    | 0 => throw (c.depthError key path)
    | room + 1 =>
      let here := key :: path
      let node ← definition.node.replace fun reference =>
        match here.idxOf? reference with
        | some above => pure (.recursive (above + 1))
        | none =>
          match c.find? reference with
          | none => pure (.unresolved reference)
          | some child => .digest <$> c.digest room reference child here
      let result := NodeDigest.ofNode c.hash node
      modify fun memo => { memo with nodes := memo.nodes.insert place result }
      return result

/-- The fingerprint of a type. -/
def fingerprint (c : Canonicalizer) (key : String) : Resolution String := do
  match (← get).fingerprints[key]? with
  | some found => return found
  | none =>
    match c.find? key with
    | none => throw (c.notFound key)
    | some definition =>
      modify fun memo => { memo with steps := 0 }
      let root ← c.digest maxTypeDepth key definition []
      let result := String.ofList (root.hash.toList.take fingerprintLength)
      modify fun memo => { memo with fingerprints := memo.fingerprints.insert key result }
      return result

/-- The fingerprint of a type when nothing is remembered. -/
def freshFingerprint (c : Canonicalizer) (key : String) : Except LayoutError String :=
  ((c.fingerprint key).run {}).1

end Canonicalizer
end StorageLayout
