import StorageLayout.LayoutError
import StorageLayout.TypeDefinition.Basic

/-!
# The types of one contract

A type key has a meaning only inside the dictionary of one contract, and errors name the contract.
Paths through the dictionary run from the innermost type to the one where resolving started.
-/
namespace StorageLayout

def maxTypeDepth : Nat := 64

structure TypeScope where
  contract : String
  types : TypeDictionary

namespace TypeScope

def find? (s : TypeScope) (key : String) : Option TypeDefinition := s.types.find? key

def notFound (s : TypeScope) (key : String) : LayoutError := .typeNotFound s.contract key

/-- The key at which a path started, or the given one if the path is empty. -/
def rootOf (key : String) (path : List String) : String := path.getLastD key

/-- The error for types that nest too deep, which names the type where resolving started. -/
def depthError (s : TypeScope) (key : String) (path : List String) : LayoutError :=
  .typeDepthExceeded s.contract (rootOf key path) maxTypeDepth

end TypeScope
end StorageLayout
