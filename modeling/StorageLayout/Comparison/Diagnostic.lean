import StorageLayout.Diff.Basic

/-!
# Diagnostics

A diagnostic is a finding about one variable of the old layout. It shows the old and the new state
as texts with their difference. How severe it is depends on the rule alone. The findings about a
contract are kept in two lists, errors and warnings, each in the order in which they were filed.
-/
namespace StorageLayout

inductive Rule where
  /-- The new layout ends before the variable's position. -/
  | missingVariable
  /-- The variable of the same name lies elsewhere. -/
  | slotChanged
  /-- Another variable of another type has taken the position. -/
  | orderChanged
  /-- The variable is in its place, but the structure of its type differs. -/
  | typeChanged
  /-- The position holds the same type under another name. -/
  | nameChanged
  deriving DecidableEq, Repr

inductive Severity where
  /-- Existing storage would be misread. -/
  | error
  /-- Someone has to look at it. -/
  | warning
  deriving DecidableEq, Repr

def Severity.name : Severity → String
  | error => "error"
  | warning => "warning"

def Severity.all : List Severity := [.error, .warning]

namespace Rule

/-- All rules, in the order in which they are applied. -/
def all : List Rule := [missingVariable, slotChanged, orderChanged, typeChanged, nameChanged]

def name : Rule → String
  | missingVariable => "MissingVariable"
  | slotChanged => "SlotChanged"
  | orderChanged => "OrderChanged"
  | typeChanged => "TypeChanged"
  | nameChanged => "NameChanged"

def severity : Rule → Severity
  | missingVariable | slotChanged | orderChanged => .error
  | typeChanged | nameChanged => .warning

end Rule

/-- The old and the new definition of a changed type. -/
structure TypeDefinitions where
  label : String
  expected : String
  got : String
  deriving DecidableEq, Repr

structure Diagnostic where
  variableName : String
  rule : Rule
  severity : Severity
  /-- The old state. -/
  expected : String
  /-- The new state. -/
  got : String
  /-- The difference of the two. -/
  diff : String
  typeDefinitions : Option TypeDefinitions
  deriving DecidableEq, Repr

namespace Diagnostic

/-- The finding of a rule: its severity follows from the rule, its difference from the texts. -/
def ofRule (rule : Rule) (variableName expected got : String)
    (typeDefinitions : Option TypeDefinitions := none) : Diagnostic :=
  ⟨variableName, rule, rule.severity, expected, got, Diff.unified expected got, typeDefinitions⟩

def summary (d : Diagnostic) : String :=
  d.severity.name ++ " " ++ d.rule.name ++ ": variable '" ++ d.variableName ++ "' expected " ++
    d.expected ++ " got " ++ d.got

end Diagnostic

structure Findings where
  errors : List Diagnostic := []
  warnings : List Diagnostic := []
  deriving DecidableEq, Repr

namespace Findings

/-- Files a finding at the end of the list of its severity. -/
def add (f : Findings) (d : Diagnostic) : Findings :=
  match d.severity with
  | .error => { f with errors := f.errors ++ [d] }
  | .warning => { f with warnings := f.warnings ++ [d] }

def addAll (f : Findings) (ds : List Diagnostic) : Findings := ds.foldl add f

def hasErrors (f : Findings) : Bool := !f.errors.isEmpty

def isClean (f : Findings) : Bool := f.errors.isEmpty && f.warnings.isEmpty

/-- The errors, then the warnings. -/
def diagnostics (f : Findings) : List Diagnostic := f.errors ++ f.warnings

def byRule (f : Findings) (rule : Rule) : List Diagnostic :=
  f.diagnostics.filter (·.rule = rule)

end Findings
end StorageLayout
