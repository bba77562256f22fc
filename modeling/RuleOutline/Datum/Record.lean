import RuleOutline.Datum
import RuleOutline.Token
import RuleOutline.Finding

/-! Tokens and findings as records. -/
namespace RuleOutline

/-- A token as a record. -/
def Token.datum (token : Token) : Datum :=
  .record [
    ("kind", .text token.kind.name),
    ("text", .text token.text),
    ("span", .record [("start", .count token.start), ("end", .count token.stop)]),
    ("line", .count token.line)]

/-- A finding as a record. -/
def Finding.datum (finding : Finding) : Datum :=
  .record [
    ("message", .text finding.message),
    ("severity", .text finding.severity.name),
    ("line", .orNull .count finding.line),
    ("code", .orNull .text finding.code)]

end RuleOutline
