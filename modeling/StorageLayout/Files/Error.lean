/-!
# Why a file operation fails

The failures that reading, writing and listing files can meet, and their wording. A failure that
the operating system reports carries the system's number of it in the wording.
-/
namespace StorageLayout

inductive FileError where
  /-- A name on the path is not there. -/
  | missing
  /-- Something of that name is there already. -/
  | alreadyExists
  /-- A name that is used as a directory is a file. -/
  | notDirectory
  /-- A name that is used as a file is a directory. -/
  | isDirectory
  /-- A name or the whole path is longer than the system allows. -/
  | nameTooLong
  /-- A path contains the null character. -/
  | nullInPath
  /-- The bytes of a file are not a text. -/
  | notText
  /-- Another failure, in the words of the system and with its number. -/
  | system (words : String) (number : Nat)
  deriving DecidableEq, Repr

namespace FileError

/-- The wording of a failure that the operating system reports. -/
def systemMessage (words : String) (number : Nat) : String :=
  words ++ " (os error " ++ toString number ++ ")"

def message : FileError → String
  | missing => systemMessage "No such file or directory" 2
  | alreadyExists => systemMessage "File exists" 17
  | notDirectory => systemMessage "Not a directory" 20
  | isDirectory => systemMessage "Is a directory" 21
  | nameTooLong => systemMessage "File name too long" 36
  | nullInPath => "file name contained an unexpected NUL byte"
  | notText => "stream did not contain valid UTF-8"
  | system words number => systemMessage words number

end FileError
end StorageLayout
