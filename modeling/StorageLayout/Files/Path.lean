import StorageLayout.Files.Error
import StorageLayout.Text.Blank

/-!
# Paths

A path is a text of names separated by slashes. It is used as it is written: nothing is normalised,
so that a message shows the path that the user gave.
-/
namespace StorageLayout.Path

/-- A path as seen from a directory. A path that begins with a slash stands for itself; no slash is
added behind one or in front of everything. -/
def join (dir path : String) : String :=
  if path.toList.head? = some '/' ∨ dir = "" then path
  else if dir.toList.getLast? = some '/' then dir ++ path
  else dir ++ "/" ++ path

def names (path : String) : List String := (Text.parts '/' path).filter (· ≠ "")

/-- Whether a path ends in a slash, and so can only name a directory. -/
def endsInSlash (path : String) : Bool := path.toList.getLast? = some '/'

/-- The longest name that a directory can hold, in bytes. -/
def maxNameSize : Nat := 255

def checkName (name : String) : Except FileError Unit :=
  if name.utf8ByteSize > maxNameSize then .error .nameTooLong else .ok ()

/-- The longest path that the system accepts, in bytes. -/
def maxSize : Nat := 4095

/-- Checks what can be told without looking at any file. -/
def check (path : String) : Except FileError Unit :=
  if '\x00' ∈ path.toList then .error .nullInPath
  else if path = "" then .error .missing
  else if path.utf8ByteSize > maxSize then .error .nameTooLong
  else .ok ()

/-- The names on a path without those that stay in place, apart from one at the beginning. -/
def movingNames (path : String) : List String :=
  match names path with
  | [] => []
  | name :: rest => name :: rest.filter (· ≠ ".")

/-- The path with given names, beginning with a slash or not. -/
def ofNames (isAbsolute : Bool) (names : List String) : String :=
  (if isAbsolute then "/" else "") ++ "/".intercalate names

/-- The paths of the directories around the last name, innermost first. The names are given in
reverse. -/
def outerPaths (isAbsolute : Bool) : List String → List String
  | [] => []
  | [_] => []
  | _ :: outer => ofNames isAbsolute outer.reverse :: outerPaths isAbsolute outer

/-- The paths of the directories around what a path names, innermost first. -/
def ancestors (path : String) : List String :=
  outerPaths (path.toList.head? = some '/') (movingNames path).reverse

/-- A file name cut at its last dot into stem and extension. A name without a dot, or with none
but at its beginning, has no extension. -/
def stemAndExtension? (name : String) : Option (String × String) :=
  let reversed := name.toList.reverse
  let extension := (reversed.takeWhile (· ≠ '.')).reverse
  match reversed.dropWhile (· ≠ '.') with
  | [] => none
  | [_] => none
  | _ :: stem => some (String.ofList stem.reverse, String.ofList extension)

example : stemAndExtension? "a.b.json" = some ("a.b", "json") := by decide +kernel
example : stemAndExtension? ".json" = none := by decide +kernel
example : ancestors "a/./b//c/" = ["a/b", "a"] := by decide +kernel

end StorageLayout.Path
