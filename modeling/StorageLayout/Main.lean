import StorageLayout.CommandLine.Run

/-!
# The program

Runs a command line on the files of the disk, prints what comes of it and ends with its status.
-/
namespace StorageLayout

/-- Why an operation of the system failed. -/
def FileError.ofSystem : IO.Error → FileError
  | .noFileOrDirectory _ _ _ => .missing
  | .alreadyExists _ 17 _ => .alreadyExists
  | .inappropriateType _ 20 _ => .notDirectory
  | .inappropriateType _ 21 _ => .isDirectory
  | .alreadyExists _ number words => .system words number.toNat
  | .inappropriateType _ number words => .system words number.toNat
  | .resourceBusy number words => .system words number.toNat
  | .permissionDenied _ number words => .system words number.toNat
  | .invalidArgument _ number words => .system words number.toNat
  | .resourceExhausted _ number words => .system words number.toNat
  | .unsatisfiedConstraints number words => .system words number.toNat
  | e => .system (toString e) 5

def FileError.catching {α : Type} (operation : IO α) : IO (Except FileError α) := do
  match ← operation.toBaseIO with
  | .ok a => return .ok a
  | .error e => return .error (.ofSystem e)

instance : FileSystem IO where
  readText path := do
    match ← FileError.catching (IO.FS.readBinFile path) with
    | .error e => return .error e
    | .ok bytes =>
      match String.fromUTF8? bytes with
      | none => return .error .notText
      | some s => return .ok s
  writeText path content := FileError.catching (IO.FS.writeFile path content)
  makeDirectory path := FileError.catching (IO.FS.createDir path)
  entries path := FileError.catching do
    let found ← (← IO.FS.realPath path).readDir
    return found.toList.map (·.fileName)
  isFile path := do
    let answer ← FileError.catching do (← IO.FS.realPath path).metadata
    match answer with
    | .ok data => return data.type == .file
    | .error _ => return false
  isDirectory path := do
    let answer ← FileError.catching do (← IO.FS.realPath path).metadata
    match answer with
    | .ok data => return data.type == .dir
    | .error _ => return false
  removeFile path := FileError.catching (IO.FS.removeFile path)

end StorageLayout

open StorageLayout.CommandLine in
def main (arguments : List String) : IO UInt32 := do
  let directory ← IO.getEnv Environment.directoryVariable
  let name ← IO.getEnv Environment.nameVariable
  let outcome ← run ⟨directory, name⟩ arguments
  (← IO.getStdout).putStr outcome.out
  (← IO.getStderr).putStr outcome.err
  return outcome.status.code.toUInt32
