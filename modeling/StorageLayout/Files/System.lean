import StorageLayout.Files.Path

/-!
# What the program asks of a file system

The program reads and writes files through a few operations, each of which either answers or says
why it fails. The same program therefore runs on a disk and on a tree of files that is a value.
-/
namespace StorageLayout

/-- A monad in which files can be read and written. -/
class FileSystem (m : Type → Type) where
  /-- The content of a text file. -/
  readText : String → m (Except FileError String)
  /-- Makes a file with a content, or replaces the content of a file. -/
  writeText : String → String → m (Except FileError Unit)
  /-- Makes a directory in an existing directory. -/
  makeDirectory : String → m (Except FileError Unit)
  /-- The names in a directory, in the order of the system. -/
  entries : String → m (Except FileError (List String))
  /-- Whether a path names a file. -/
  isFile : String → m Bool
  /-- Whether a path names a directory. -/
  isDirectory : String → m Bool
  /-- Removes a file. -/
  removeFile : String → m (Except FileError Unit)

namespace FileSystem

variable {m : Type → Type} [Monad m] [FileSystem m]

/-- Passes over a failure to make a directory if the directory is there. -/
def unlessDirectory (path : String) (failure : FileError) : m (Except FileError Unit) := do
  if ← isDirectory path then return .ok () else return .error failure

/-- Makes the first directory of a list, if it is not there. The rest of the list are the
directories around it, innermost first, which are made only if one of them turns out to be
missing. -/
def makeFirst : List String → m (Except FileError Unit)
  | [] => return .ok ()
  | path :: outer => do
    match ← makeDirectory path with
    | .ok () => return .ok ()
    | .error .missing =>
      match ← makeFirst outer with
      | .error failure => return .error failure
      | .ok () =>
        match ← makeDirectory path with
        | .ok () => return .ok ()
        | .error failure => unlessDirectory path failure
    | .error failure => unlessDirectory path failure

/-- Makes a directory with all directories around it, as far as they are not there. The empty path
names the directory in which the program works. -/
def makeDirectories (path : String) : m (Except FileError Unit) :=
  if path = "" then return .ok () else makeFirst (path :: Path.ancestors path)

end FileSystem
end StorageLayout
