import StorageLayout.Catalog
import StorageLayout.Comparison.Rules
import StorageLayout.Text.Blank

/-!
# Comparing two documents

Contracts are matched by name. A contract that occurs in only one document is skipped; if a name
occurs more than once in a document, its first contract counts. A filter restricts the comparison
to the names in a list.
-/
namespace StorageLayout

/-- The findings about each contract, in the order of their names. -/
abbrev Report := Catalog Findings

structure ContractFilter where
  names : List String
  deriving DecidableEq, Repr

namespace ContractFilter

/-- Reads a list of names separated by commas; blanks around names and blank entries are
ignored. -/
def ofText (s : String) : ContractFilter :=
  ⟨((Text.parts ',' s).map Text.trimmed).filter (· ≠ "")⟩

def allows (f : ContractFilter) (name : String) : Bool := name ∈ f.names

def isEmpty (f : ContractFilter) : Bool := f.names.isEmpty

end ContractFilter

namespace Report

def hasErrors (r : Report) : Bool := r.entries.any fun (_, findings) => findings.hasErrors

def totals (r : Report) : Nat × Nat :=
  (r.entries.foldl (fun n (_, findings) => n + findings.errors.length) 0,
    r.entries.foldl (fun n (_, findings) => n + findings.warnings.length) 0)

end Report

namespace SnapshotDocument

/-- Whether a filter, if there is one, lets a contract through. -/
def isAllowed (filter : Option ContractFilter) (name : String) : Bool :=
  match filter with
  | none => true
  | some f => f.allows name

/-- A report with the findings about one more contract of the old document, if it is allowed, new
to the report, and matched in the new document. -/
def compareContract (new : SnapshotDocument) (filter : Option ContractFilter) (report : Report)
    (old : ContractSnapshot) : Report :=
  if !isAllowed filter old.name || report.contains old.name then report
  else
    match new.contract? old.name with
    | some candidate => report.insert old.name (old.compare candidate)
    | none => report

/-- The findings about every contract that occurs in both documents. -/
def compare (old new : SnapshotDocument) (filter : Option ContractFilter) : Report :=
  old.contracts.foldl (new.compareContract filter) .empty

end SnapshotDocument
end StorageLayout
