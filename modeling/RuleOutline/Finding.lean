/-! Findings: remarks about a rule that an analysis of the grammar hands back. They are kept and
shown as given. -/
namespace RuleOutline

/-- How serious a finding is. -/
inductive Severity where
  | error
  | warning
  | information
  | hint
  deriving DecidableEq

/-- The word for the severity in running text. -/
def Severity.display : Severity → String
  | .error => "error"
  | .warning => "warning"
  | .information => "info"
  | .hint => "hint"

/-- The full name of the severity. -/
def Severity.name : Severity → String
  | .error => "error"
  | .warning => "warning"
  | .information => "information"
  | .hint => "hint"

/-- A remark with the line it points at and the code it is known by, where it has them. -/
structure Finding where
  message : String
  severity : Severity
  line : Option Nat
  code : Option String
  deriving DecidableEq

/-- The finding on one line: severity, code and message. -/
def Finding.display (finding : Finding) : String :=
  match finding.code with
  | some code => s!"{finding.severity.display}[{code}]: {finding.message}"
  | none => s!"{finding.severity.display}: {finding.message}"

end RuleOutline
