import StorageLayout.Comparison.Format
import StorageLayout.Report.Markdown
import StorageLayout.Report.Text

/-!
# The formats of a report
-/
namespace StorageLayout

inductive ReportFormat where
  | text
  | markdown
  | json
  deriving DecidableEq, Repr

namespace ReportFormat

def all : List ReportFormat := [text, markdown, json]

def name : ReportFormat → String
  | text => "text"
  | markdown => "markdown"
  | json => "json"

def ofName? (name : String) : Option ReportFormat := all.find? (·.name = name)

end ReportFormat

/-- A report in a format, with a line feed at its end. -/
def Report.shown (r : Report) : ReportFormat → String
  | .text => r.text
  | .markdown => r.markdown
  | .json => r.json.indented ++ "\n"

end StorageLayout
