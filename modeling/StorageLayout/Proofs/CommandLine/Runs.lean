import StorageLayout.CommandLine.Run
import StorageLayout.Proofs.Store.Directory

/-!
# What comes of a command in a tree of files

A command first asks for what it needs. If it gets that, it goes on; if not, it ends there and then
with the reason.
-/
namespace StorageLayout.CommandLine

open FileTree (Action)

/-- What comes of a command in a tree of files, and the tree afterwards. -/
def Command.runIn (command : Command) (t : FileTree) : Outcome × FileTree :=
  (command.run : StateM FileTree Outcome) t

section OrElseFail

variable {α : Type} {context : String} {action : Action α} {next : α → StateM FileTree Outcome}
variable {t after : FileTree}

theorem run_orElseFail_of_ok {a : α} (ran : action.run t = (.ok a, after)) :
    orElseFail context action next t = next a after := by
  simp only [orElseFail, bind, StateT.bind, ran]

theorem run_orElseFail_of_error {e : StoreError} (ran : action.run t = (.error e, after)) :
    orElseFail context action next t = (.ofStoreError context e, after) := by
  simp only [orElseFail, bind, StateT.bind, ran]
  rfl

end OrElseFail

/-- Only where the report is written can a comparison still fail once it has been made. -/
theorem run_reportTo (output : Option String) (report : Report) (format : ReportFormat)
    (t : FileTree) :
    (reportTo output report format : StateM FileTree Outcome) t =
      match output with
      | none => (reported report format, t)
      | some path =>
        match t.writeText path report.markdown with
        | .ok written => (reported report format, written)
        | .error failure =>
          (.failed .unreachable ("failed to write report to '" ++ path ++ "'") failure.message
            (report.shown format), t) := by
  cases output with
  | none => rfl
  | some path =>
    simp only [reportTo, bind, StateT.bind, FileSystem.writeText, FileTree.updating]
    cases t.writeText path report.markdown <;> rfl

end StorageLayout.CommandLine
