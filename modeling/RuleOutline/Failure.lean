import RuleOutline.Format
import RuleOutline.Settings.Loader

/-! What can keep an outline from being shown. Reading tokens and rules never fails; getting hold
of a text, of the settings or of a format can. -/
namespace RuleOutline

/-- The reasons for which nothing is shown. -/
inductive Failure where
  | unreadable (path reason : String)
  | settings (error : Settings.Error)
  | format (error : FormatError)

/-- What went wrong, in words. -/
def Failure.message : Failure → String
  | .unreadable path reason => s!"Failed to read '{path}': {reason}"
  | .settings error => s!"Configuration error: {error.message}"
  | .format error => error.message

/-- The reason by itself, without what was being done. -/
def Failure.reason : Failure → String
  | .unreadable _ reason => reason
  | .settings error => error.message
  | .format error => error.message

end RuleOutline
