import Proofread.Lint.Error
import Proofread.Lint.Message

set_option autoImplicit false

namespace Proofread.Lint

def controlRuleId : String := "lint"

structure ProcessingFailure where
  ruleId : String
  reason : String
  /-- The tag of the engine if a directive failed, and nothing if a rule did. -/
  source : Option String
  span : Option Span
  /-- The file with the messages up to the failure. -/
  file : LintFile
deriving DecidableEq, Repr

namespace ProcessingFailure

def isEngine (f : ProcessingFailure) : Bool :=
  f.source = some engineTag

def message (f : ProcessingFailure) : Message :=
  { Message.plain f.ruleId f.reason with
    fatal := some true, file := f.file.path, location := f.span.map Location.range }

def render (f : ProcessingFailure) : String :=
  let body := "`" ++ f.ruleId ++ "` failed: " ++ f.reason
  match f.file.path with
  | some path => path ++ ": " ++ body
  | none => body

end ProcessingFailure

inductive Outcome where
  | success (file : LintFile)
  | configurationError (error : LintError)
  | processingFailure (failure : ProcessingFailure)
  /-- A number in a rule left its range, and the program stops. -/
  | overflow
deriving DecidableEq, Repr

namespace Outcome

def isSuccess : Outcome → Bool
  | success _ => true
  | _ => false

def file? : Outcome → Option LintFile
  | success file => some file
  | _ => none

def toExcept : Outcome → Except LintError LintFile
  | success file => .ok file
  | configurationError e => .error e
  | processingFailure f => .error (.ruleFailed f.ruleId f.reason)
  | overflow => .error .overflow

end Outcome

end Proofread.Lint
