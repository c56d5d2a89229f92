import StorageLayout.CommandLine.Command
import StorageLayout.Extraction.Directory
import StorageLayout.Report.Table

/-!
# Carrying out a command

A command ends with a status and with what it has printed. The status tells apart errors among the
findings, malformed data, and files that cannot be reached.
-/
namespace StorageLayout.CommandLine

inductive ExitStatus where
  | success
  /-- There are errors among the findings. -/
  | findings
  /-- A document or an artifact is malformed, or the command line is not understood. -/
  | malformed
  /-- A file cannot be reached, or a snapshot is not there. -/
  | unreachable
  deriving DecidableEq, Repr

def ExitStatus.code : ExitStatus → Nat
  | success => 0
  | findings => 1
  | malformed => 2
  | unreachable => 3

structure Outcome where
  status : ExitStatus
  /-- What is printed as the result. -/
  out : String := ""
  /-- What is printed beside the result. -/
  err : String := ""
  deriving DecidableEq, Repr

namespace Outcome

/-- The outcome of a command that failed, with a line that says why. -/
def failed (status : ExitStatus) (context reason : String) (out : String) : Outcome :=
  ⟨status, out, "Error: " ++ context ++ ": " ++ reason ++ "\n"⟩

/-- The outcome of a command that could not keep or fetch something. -/
def ofStoreError (context : String) (e : StoreError) : Outcome :=
  failed (if e.isMalformedData then .malformed else .unreachable) context e.message ""

end Outcome

variable {m : Type → Type} [Monad m] [FileSystem m]

/-- Goes on with a value, or ends with the failure to keep or fetch it. -/
def orElseFail {α : Type} (context : String) (action : ExceptT StoreError m α)
    (next : α → m Outcome) : m Outcome := do
  match ← action.run with
  | .error e => return .ofStoreError context e
  | .ok a => next a

/-- Exports the snapshots of the artifacts in a directory. -/
def exportFrom (artifacts : String) (target : ExportTarget) : m Outcome :=
  orElseFail "failed to extract snapshot" (BuildArtifact.extractDirectory artifacts)
    fun document =>
      orElseFail "failed to save snapshot" (target.store.save target.name document) fun () =>
        return ⟨.success, document.table.text ++ "\n",
          "Snapshot written to " ++ target.path ++ "\n"⟩

/-- The outcome of a comparison whose report has been written wherever it was wanted. -/
def reported (report : Report) (format : ReportFormat) : Outcome :=
  ⟨if report.hasErrors then .findings else .success, report.shown format, ""⟩

/-- Writes a report to a file, if one is wanted, and ends the comparison. -/
def reportTo (output : Option String) (report : Report) (format : ReportFormat) : m Outcome :=
  match output with
  | none => return reported report format
  | some path => do
    match ← FileSystem.writeText path report.markdown with
    | .ok () => return reported report format
    | .error e =>
      return .failed .unreachable ("failed to write report to '" ++ path ++ "'") e.message
        (report.shown format)

def compare (old new : String) (contracts output : Option String) (format : ReportFormat) :
    m Outcome :=
  orElseFail "failed to read old snapshot" (SnapshotDocument.read old) fun oldDocument =>
    orElseFail "failed to read new snapshot" (SnapshotDocument.read new) fun newDocument =>
      reportTo output (oldDocument.compare newDocument (contracts.map ContractFilter.ofText)) format

/-- Lists the snapshots of a store, one name a line. -/
def list (store : DirectoryStore) : m Outcome :=
  orElseFail "failed to list snapshots" store.names fun names =>
    return ⟨.success, Report.ofLines names, ""⟩

def tabulate (store : DirectoryStore) (name : String) : m Outcome :=
  orElseFail "failed to load snapshot" (store.load name) fun document =>
    return ⟨.success, document.table.text ++ "\n", ""⟩

def Command.run : Command → m Outcome
  | .exportFrom artifacts target => CommandLine.exportFrom artifacts target
  | .compare old new contracts output format =>
    CommandLine.compare old new contracts output format
  | .list store => CommandLine.list store
  | .tabulate store name => CommandLine.tabulate store name

/-- What a command line is answered with when no command is carried out. -/
def Stop.outcome : Stop → Outcome
  | .misuse => ⟨.malformed, "", usage⟩
  | .help => ⟨.success, usage, ""⟩
  | .version => ⟨.success, "slotguard 0.1.0\n", ""⟩
where
  usage : String :=
    Report.ofLines [
      "Storage layout upgrade checker",
      "",
      "Usage: slotguard [-v] export -a <artifacts> [-o <directory>] [-n <name>]",
      "       slotguard [-v] check <old> <new> [-c <contracts>] [-o <file>] [-f <format>]",
      "       slotguard [-v] list [-o <directory>]",
      "       slotguard [-v] show <name> [-o <directory>]"]

/-- Reads a command line and carries it out. -/
def run (environment : Environment) (arguments : List String) : m Outcome :=
  match Command.ofArguments environment arguments with
  | .ok command => command.run
  | .error stop => return stop.outcome

end StorageLayout.CommandLine
