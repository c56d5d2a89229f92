import StorageLayout.CommandLine.Grammar
import StorageLayout.Report.Format
import StorageLayout.Store.Target

/-!
# The commands

There are four commands: one exports the snapshot of a build, one compares two snapshots, one lists
the kept snapshots, one shows a kept snapshot. Where an option that names the directory or the name
of snapshots is not given, a variable of the environment stands in for it, and after that a default.
-/
namespace StorageLayout.CommandLine

/-- The variables of the environment that matter. -/
structure Environment where
  /-- The directory of the snapshots. -/
  directory : Option String := none
  /-- The name of the snapshot to export. -/
  name : Option String := none
  deriving DecidableEq, Repr

def Environment.directoryVariable : String := "SLOTGUARD_DIR"

def Environment.nameVariable : String := "SLOTGUARD_REPORT_NAME"

inductive Command where
  /-- To extract the snapshots of the artifacts in a directory and to keep them. -/
  | exportFrom (artifacts : String) (target : ExportTarget)
  /-- To compare the documents at two paths and to show the report in a format. The comparison may
  be restricted to some contracts, and the report may be written to a file as well. -/
  | compare (old new : String) (contracts : Option String) (output : Option String)
      (format : ReportFormat)
  /-- To list the snapshots in a directory. -/
  | list (store : DirectoryStore)
  /-- To show a snapshot as a table. -/
  | tabulate (store : DirectoryStore) (name : String)
  deriving DecidableEq, Repr

inductive CommandKind where
  | exportFrom
  | compare
  | list
  | tabulate
  deriving DecidableEq, Repr

namespace CommandKind

def all : List CommandKind := [exportFrom, compare, list, tabulate]

def word : CommandKind → String
  | exportFrom => "export"
  | compare => "check"
  | list => "list"
  | tabulate => "show"

def ofWord? (word : String) : Option CommandKind := all.find? (·.word = word)

/-- A path is never empty. -/
def isPath (s : String) : Bool := s ≠ ""

/-- A name or a list of names may be any text. -/
def isText (_ : String) : Bool := true

/-- The option to print more about the work; what it prints is not part of any answer. -/
def verboseOption : OptionForm := ⟨"verbose", 'v', none⟩

def directoryOption : OptionForm := ⟨"out-dir", 'o', some isPath⟩

def grammar : CommandKind → Grammar
  | exportFrom =>
    ⟨[⟨"artifacts", 'a', some isPath⟩, directoryOption, ⟨"name", 'n', some isText⟩, verboseOption],
      []⟩
  | compare =>
    ⟨[⟨"contracts", 'c', some isText⟩, ⟨"output", 'o', some isPath⟩,
        ⟨"format", 'f', some fun s => (ReportFormat.ofName? s).isSome⟩, verboseOption],
      [isPath, isPath]⟩
  | list => ⟨[directoryOption, verboseOption], []⟩
  | tabulate => ⟨[directoryOption, verboseOption], [isText]⟩

end CommandKind

/-- The directory of the snapshots: the option comes first, then the environment. -/
def directoryOf (environment : Environment) (r : Reading) : Except Stop String :=
  match r.value? "out-dir", environment.directory with
  | some directory, _ => .ok directory
  | none, some directory =>
    if CommandKind.isPath directory then .ok directory else .error .misuse
  | none, none => .ok ({} : ExportTarget).directory

/-- The name of the snapshot to export: the option comes first, then the environment. -/
def nameOf (environment : Environment) (r : Reading) : String :=
  ((r.value? "name").or environment.name).getD ({} : ExportTarget).name

namespace CommandKind

/-- The command of a kind with the options and operands that were read. -/
def command (environment : Environment) (kind : CommandKind) (r : Reading) :
    Except Stop Command := do
  match kind, r.operands with
  | exportFrom, [] =>
    let directory ← directoryOf environment r
    match r.value? "artifacts" with
    | none => .error .misuse
    | some artifacts => return .exportFrom artifacts ⟨directory, nameOf environment r⟩
  | compare, [old, new] =>
    let format := ((r.value? "format").bind ReportFormat.ofName?).getD .text
    return .compare old new (r.value? "contracts") (r.value? "output") format
  | list, [] => return .list ⟨← directoryOf environment r⟩
  | tabulate, [name] => return .tabulate ⟨← directoryOf environment r⟩ name
  | _, _ => .error .misuse

def read (environment : Environment) (kind : CommandKind) (arguments : List String) :
    Except Stop Command := do
  kind.command environment (← kind.grammar.read arguments)

end CommandKind

/-- Takes the letters of short options in front of the command; the result tells whether there has
been the option to print more. -/
def leadingLetters : List Char → Bool → Except Stop Bool
  | [], verbose => .ok verbose
  | 'v' :: rest, false => leadingLetters rest true
  | 'h' :: _, _ => .error .help
  | 'V' :: _, _ => .error .version
  | _ :: _, _ => .error .misuse

/-- What a request for help asks about: nothing more, or the word of one command. -/
def helpOn : List String → Stop
  | [] => .help
  | [word] => if word = "help" || (CommandKind.ofWord? word).isSome then .help else .misuse
  | _ => .misuse

/-- Reads a command line; the flag tells whether there has been the option to print more. -/
def Command.ofWords (environment : Environment) : Bool → List String → Except Stop Command
  | _, [] => .error .misuse
  | verbose, argument :: rest =>
    match Word.ofText argument with
    | .plain word =>
      match CommandKind.ofWord? word with
      | some kind => kind.read environment rest
      | none => .error (if word = "help" then helpOn rest else .misuse)
    | .long "verbose" none =>
      if verbose then .error .misuse else ofWords environment true rest
    | .long "help" none => .error .help
    | .long "version" none => .error .version
    | .short letters => do
      let verbose ← leadingLetters letters verbose
      ofWords environment verbose rest
    | _ => .error .misuse

def Command.ofArguments (environment : Environment) (arguments : List String) :
    Except Stop Command :=
  ofWords environment false arguments

end StorageLayout.CommandLine
