import StorageLayout.Comparison.Documents
import StorageLayout.Json.Decode

/-!
# The JSON form of reports

A report is an object from contract names to findings. A finding is written as it is filed, and is
read as it is written: its severity and its difference are taken from the text.
-/
namespace StorageLayout

open Json (Decoder Record)

def Rule.decode : Decoder Rule := Decoder.choice (Rule.all.map fun r => (r.name, r))

def Severity.decode : Decoder Severity := Decoder.choice (Severity.all.map fun s => (s.name, s))

namespace TypeDefinitions

def record : Record TypeDefinitions where
  name := "TypeDefinitions"
  blank := ⟨"", "", ""⟩
  fields := [
    .required "label" .text fun x t => { t with label := x },
    .required "expected" .text fun x t => { t with expected := x },
    .required "got" .text fun x t => { t with got := x }]

def json (t : TypeDefinitions) : Json :=
  .object [("label", .text t.label), ("expected", .text t.expected), ("got", .text t.got)]

end TypeDefinitions

namespace Diagnostic

def record : Record Diagnostic where
  name := "Diagnostic"
  blank := ⟨"", .missingVariable, .error, "", "", "", none⟩
  fields := [
    .required "variable" .text fun x d => { d with variableName := x },
    .required "rule" Rule.decode fun x d => { d with rule := x },
    .required "severity" Severity.decode fun x d => { d with severity := x },
    .required "expected" .text fun x d => { d with expected := x },
    .required "got" .text fun x d => { d with got := x },
    .required "diff" .text fun x d => { d with diff := x },
    .optional "typeDefinitions" (.optional TypeDefinitions.record.decode)
      fun x d => { d with typeDefinitions := x }]

def json (d : Diagnostic) : Json :=
  .object ([("variable", .text d.variableName), ("rule", .text d.rule.name),
    ("severity", .text d.severity.name), ("expected", .text d.expected), ("got", .text d.got),
    ("diff", .text d.diff)] ++
    Json.optionalMember "typeDefinitions" (d.typeDefinitions.map TypeDefinitions.json))

end Diagnostic

namespace Findings

def record : Record Findings where
  name := "ReportResult"
  blank := {}
  fields := [
    .required "error" (.list Diagnostic.record.decode) fun x f => { f with errors := x },
    .required "warning" (.list Diagnostic.record.decode) fun x f => { f with warnings := x }]

def json (f : Findings) : Json :=
  .object [("error", .list (f.errors.map Diagnostic.json)),
    ("warning", .list (f.warnings.map Diagnostic.json))]

end Findings

namespace Report

def decode : Decoder Report := Decoder.catalog Findings.record.decode

def json (r : Report) : Json :=
  .object (r.entries.map fun (name, findings) => (name, findings.json))

end Report
end StorageLayout
