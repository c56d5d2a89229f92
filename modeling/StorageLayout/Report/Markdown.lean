import StorageLayout.Report.Text

/-!
# Reports as Markdown

Each contract with findings is a section with its errors and its warnings; a finding shows its
difference as a code block. A report without findings is a single sentence.
-/
namespace StorageLayout.Report

def markdownOfDiff (diff : String) : List String :=
  "  ```diff" :: indentedLines 2 diff ++ ["  ```", ""]

def markdownOfDiagnostic (d : Diagnostic) : List String :=
  ["- **Variable:** `" ++ d.variableName ++ "`", "  **Rule:** `" ++ d.rule.name ++ "`", ""] ++
    markdownOfDiff d.diff ++
    match d.typeDefinitions with
    | none => []
    | some t =>
      ["  **Type definition changes for `" ++ t.label ++ "`:**", ""] ++
        markdownOfDiff (Diff.unified t.expected t.got)

/-- The lines that show the findings of one severity. -/
def markdownOfDiagnostics (ds : List Diagnostic) : List String :=
  if ds.isEmpty then ["None", ""] else ds.flatMap markdownOfDiagnostic

/-- The section of a contract: none if it is clean. -/
def markdownOfFindings (name : String) (f : Findings) : List String :=
  if f.isClean then []
  else
    ["## " ++ name, "", "### ❌ Errors", ""] ++ markdownOfDiagnostics f.errors ++
      ["### ⚠️ Warnings", ""] ++ markdownOfDiagnostics f.warnings ++ ["-----", ""]

def noFindings : String := "No storage layout incompatibilities found."

def markdown (r : Report) : String :=
  let sections := r.entries.flatMap fun (name, findings) => markdownOfFindings name findings
  ofLines (if sections.isEmpty then [noFindings] else sections)

end StorageLayout.Report
