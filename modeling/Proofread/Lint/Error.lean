import Proofread.Files.View

set_option autoImplicit false

namespace Proofread.Lint

open Files (FileFault)

inductive LintError where
  | invalidSeverity (ruleId value : String)
  | invalidOptions (ruleId detail : String)
  | unknownRule (ruleId : String)
  | ruleFailed (ruleId detail : String)
  | ruleIdMismatch (expected actual rendered : String)
  | fixtures (ruleId detail : String)
  | configNotFound (path : String)
  | configSyntax (path detail : String)
  | file (fault : FileFault)
  | unknownFormat (name : String)
  | overflow
deriving DecidableEq, Repr

namespace LintError

def message : LintError → String
  | invalidSeverity ruleId value =>
      "Invalid severity `" ++ value ++ "` for `" ++ ruleId ++ "`, expected 0, 1, or 2"
  | invalidOptions ruleId detail => "Invalid options for `" ++ ruleId ++ "`: " ++ detail
  | unknownRule ruleId => "Unknown rule `" ++ ruleId ++ "`"
  | ruleFailed ruleId detail => "Rule `" ++ ruleId ++ "` failed: " ++ detail
  | ruleIdMismatch expected actual rendered =>
      "Expected `" ++ expected ++ "`, not `" ++ actual ++ "` as `ruleId` for " ++ rendered
  | fixtures ruleId detail => "Invalid fixtures for `" ++ ruleId ++ "`: " ++ detail
  | configNotFound path => "Configuration not found: " ++ path
  | configSyntax path detail => "Failed to parse config at " ++ path ++ ": " ++ detail
  | file fault => "IO error: " ++ fault.message
  | unknownFormat name => "unknown output format `" ++ name ++ "`"
  | overflow => "attempt to add with overflow"

def isConfiguration : LintError → Bool
  | invalidSeverity _ _ | invalidOptions _ _ | unknownRule _ | configNotFound _
  | configSyntax _ _ => true
  | ruleFailed _ _ | ruleIdMismatch _ _ _ | fixtures _ _ | file _ | unknownFormat _ | overflow =>
      false

def exitCode (e : LintError) : Nat :=
  if e = overflow then 101 else if e.isConfiguration then 2 else 1

end LintError

end Proofread.Lint
