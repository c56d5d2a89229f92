import StorageLayout.Dictionary
import StorageLayout.Files.System

/-!
# Trees of files

A tree is a table of directories, which are known by their numbers. Number 0 is the top, which is
the directory in which the program works. What a directory holds are files and further directories,
each under a name. A path is walked from the top: each name must be looked up in a directory; `.`
stays there, and `..` goes back, but not beyond the top. There are no links.

The order in which names came to a directory is the order in which it is listed. It is not sorted.

Names are texts. A file system may also have names that are no texts because their bytes are not
UTF-8, and a tree cannot have these: neither the file that a store passes over when it lists its
names nor the artifact that is extracted from such a file can be put into a tree.
-/
namespace StorageLayout

/-- What a directory holds under a name. -/
inductive Node where
  /-- A directory of the table, by its number. -/
  | directory (number : Nat)
  | file (content : ByteArray)

/-- A directory: the number of the one around it, and what it holds. The top is around itself. -/
structure Directory where
  outer : Nat := 0
  nodes : Dictionary Node := .empty

inductive Place where
  | directory (number : Nat)
  /-- A name in a directory. It need not be there. -/
  | entry (dir : Nat) (name : String)
  deriving DecidableEq, Repr

structure FileTree where
  directories : Array Directory

namespace FileTree

def empty : FileTree := ⟨#[{}]⟩

/-- A directory by its number. One that is not in the table holds nothing. -/
def directory (t : FileTree) (number : Nat) : Directory := t.directories.getD number {}

def entry? (t : FileTree) (dir : Nat) (name : String) : Option Node :=
  (t.directory dir).nodes.find? name

/-- The tree with the content of a directory changed. -/
def modify (t : FileTree) (dir : Nat) (change : Dictionary Node → Dictionary Node) : FileTree :=
  ⟨t.directories.modify dir fun d => { d with nodes := change d.nodes }⟩

def put (t : FileTree) (dir : Nat) (name : String) (node : Node) : FileTree :=
  t.modify dir (·.insert name node)

def remove (t : FileTree) (dir : Nat) (name : String) : FileTree := t.modify dir (·.erase name)

def putDirectory (t : FileTree) (dir : Nat) (name : String) : FileTree :=
  let number := t.directories.size
  ⟨(t.put dir name (.directory number)).directories.push { outer := dir }⟩

def node? (t : FileTree) : Place → Option Node
  | .directory number => some (.directory number)
  | .entry dir name => t.entry? dir name

/-- The number of the directory at a place. A number that is not in the table leads nowhere. -/
def directoryAt (t : FileTree) (place : Place) : Except FileError Nat :=
  match t.node? place with
  | none => .error .missing
  | some (.file _) => .error .notDirectory
  | some (.directory number) =>
    if number < t.directories.size then .ok number else .error .missing

/-- Whether a name leads to a directory without naming anything in the place where it is used. -/
def isRelativeName (name : String) : Bool := name = "." || name = ".."

/-- Follows one name from a place. What the name leads to need not be there. -/
def step (t : FileTree) (place : Place) (name : String) : Except FileError Place := do
  let dir ← t.directoryAt place
  if name = "." then return .directory dir
  else if name = ".." then return .directory (t.directory dir).outer
  else
    Path.checkName name
    return .entry dir name

/-- Follows names from the top. -/
def walk (t : FileTree) (names : List String) : Except FileError Place :=
  names.foldlM t.step (.directory 0)

/-- The place that a path names. What the path names need not be there. -/
def locate (t : FileTree) (path : String) : Except FileError Place := do
  Path.check path
  let place ← t.walk (Path.names path)
  if Path.endsInSlash path then return .directory (← t.directoryAt place)
  else return place

/-- What is at the end of a path. -/
def find (t : FileTree) (path : String) : Except FileError Node := do
  let place ← t.locate path
  match t.node? place with
  | none => .error .missing
  | some node => .ok node

/-- The existing directory and the name in it that a path stands for; none if the path ends in a
name that leads to a directory anyway. -/
def locateEntry? (t : FileTree) (path : String) : Except FileError (Option (Nat × String)) := do
  Path.check path
  match (Path.names path).reverse with
  | [] => return none
  | name :: outer =>
    let dir ← t.directoryAt (← t.walk outer.reverse)
    return if isRelativeName name then none else some (dir, name)

def readBytes (t : FileTree) (path : String) : Except FileError ByteArray := do
  match ← t.find path with
  | .directory _ => .error .isDirectory
  | .file content => .ok content

def readText (t : FileTree) (path : String) : Except FileError String := do
  match String.fromUTF8? (← t.readBytes path) with
  | none => .error .notText
  | some s => .ok s

def writeBytes (t : FileTree) (path : String) (content : ByteArray) :
    Except FileError FileTree := do
  match ← t.locateEntry? path with
  | none => .error .isDirectory
  | some (dir, name) =>
    if Path.endsInSlash path then .error .isDirectory
    else
      Path.checkName name
      match t.entry? dir name with
      | some (.directory _) => .error .isDirectory
      | _ => .ok (t.put dir name (.file content))

def writeText (t : FileTree) (path : String) (content : String) : Except FileError FileTree :=
  t.writeBytes path content.toUTF8

def makeDirectory (t : FileTree) (path : String) : Except FileError FileTree := do
  match ← t.locateEntry? path with
  | none => .error .alreadyExists
  | some (dir, name) =>
    Path.checkName name
    match t.entry? dir name with
    | some _ => .error .alreadyExists
    | none => .ok (t.putDirectory dir name)

def entries (t : FileTree) (path : String) : Except FileError (List String) := do
  let dir ← t.directoryAt (← t.locate path)
  return (t.directory dir).nodes.keys

def isFile (t : FileTree) (path : String) : Bool :=
  match t.find path with
  | .ok (.file _) => true
  | _ => false

def isDirectory (t : FileTree) (path : String) : Bool :=
  match t.find path with
  | .ok (.directory _) => true
  | _ => false

def removeFile (t : FileTree) (path : String) : Except FileError FileTree := do
  match ← t.locateEntry? path with
  | none => .error .isDirectory
  | some (dir, name) =>
    Path.checkName name
    match t.entry? dir name with
    | none => .error .missing
    | some (.directory _) => .error .isDirectory
    | some (.file _) =>
      if Path.endsInSlash path then .error .notDirectory else .ok (t.remove dir name)

/-- Replaces the tree by what an operation makes of it, or keeps it if the operation fails. -/
def updating (operation : FileTree → Except FileError FileTree) :
    StateM FileTree (Except FileError Unit) := fun t =>
  match operation t with
  | .ok changed => (.ok (), changed)
  | .error failure => (.error failure, t)

instance : FileSystem (StateM FileTree) where
  readText path := fun t => (t.readText path, t)
  writeText path content := updating (·.writeText path content)
  makeDirectory path := updating (·.makeDirectory path)
  entries path := fun t => (t.entries path, t)
  isFile path := fun t => (t.isFile path, t)
  isDirectory path := fun t => (t.isDirectory path, t)
  removeFile path := updating (·.removeFile path)

end FileTree
end StorageLayout
