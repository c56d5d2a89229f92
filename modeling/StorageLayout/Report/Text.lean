import StorageLayout.Comparison.Documents

/-!
# Reports as plain text

Each contract with findings is shown under its name, one line for each finding with its difference
below. The last line counts the errors and warnings of all contracts.
-/
namespace StorageLayout.Report

def indentedLine (indent : Nat) (line : String) : String :=
  String.ofList (List.replicate indent ' ') ++ line

/-- The lines of a text behind a number of spaces. -/
def indentedLines (indent : Nat) (text : String) : List String :=
  (StorageLayout.Text.lines text).map (indentedLine indent)

def textOfDiagnostic (d : Diagnostic) : List String :=
  indentedLine 2 (d.severity.name ++ " [" ++ d.rule.name ++ "] " ++ d.variableName) ::
    indentedLines 6 d.diff ++
    match d.typeDefinitions with
    | none => []
    | some t =>
      indentedLine 4 ("type definition changes for " ++ t.label ++ ":") ::
        indentedLines 6 (Diff.unified t.expected t.got)

/-- The lines that show the findings about a contract: none if it is clean. -/
def textOfFindings (name : String) (f : Findings) : List String :=
  if f.isClean then [] else name :: f.diagnostics.flatMap textOfDiagnostic ++ [""]

def totalsLine (r : Report) : String :=
  let (errors, warnings) := r.totals
  "Found " ++ toString errors ++ " errors and " ++ toString warnings ++ " warnings"

/-- A text of lines, each ended by a line feed. -/
def ofLines (lines : List String) : String :=
  String.join (lines.map fun line => line ++ "\n")

def text (r : Report) : String :=
  ofLines (r.entries.flatMap (fun (name, findings) => textOfFindings name findings) ++
    [totalsLine r])

end StorageLayout.Report
