import Proofread.Command.Arguments
import Proofread.Command.Check
import Proofread.Fixture.Trace
import Proofread.Text.Quoted

set_option autoImplicit false

namespace Proofread.Command

open Files (FileView)
open Fixture (CaseReport Comparison RuleReport)
open Lint (LintError LogEvent Registry)

namespace Fixtures

def introduction (registry : Registry) (report : RuleReport) : List String :=
  match registry.get? report.ruleId with
  | some rule => [report.ruleId ++ ": " ++ rule.description]
  | none => []

def differenceLines (label : String) (c : Comparison) : List String :=
  if c.passed then []
  else
    ["    " ++ label ++ ":",
      "      expected: " ++ Text.quotedList c.expected,
      "      actual:   " ++ Text.quotedList c.actual]

def verdict (c : CaseReport) : String :=
  if c.passed then "ok  " else "FAIL"

def caseLines (ruleId : String) (c : CaseReport) : List String :=
  (verdict c ++ " " ++ ruleId ++ " \x60" ++ c.setting ++ "\x60 " ++ c.name) ::
    (differenceLines "with positions" c.withSpans ++
      match c.withoutSpans with
      | none => []
      | some without => differenceLines "without positions" without)

def reportLines (registry : Registry) (report : RuleReport) : List String :=
  introduction registry report ++ report.cases.flatMap (caseLines report.ruleId)

def caseCount : List RuleReport → Nat
  | [] => 0
  | report :: rest => report.cases.length + caseCount rest

def failureCount : List RuleReport → Nat
  | [] => 0
  | report :: rest => report.failures.length + failureCount rest

def summary (reports : List RuleReport) : String :=
  toString (caseCount reports) ++ " fixture(s), " ++ toString (failureCount reports) ++ " failed"

def answer (registry : Registry) (reports : List RuleReport) : Answer :=
  ⟨if 0 < failureCount reports then Answer.foundCode else 0,
    lines (reports.flatMap (reportLines registry) ++ [summary reports]), ""⟩

def reports (registry : Registry) : Option String → Except LintError (List RuleReport)
  | some id => (Fixture.checkRule registry id).map fun report => [report]
  | none => Fixture.checkAll registry

def run (registry : Registry) (rule : Option String) : Except LintError Answer :=
  (reports registry rule).map (answer registry)

def runLog (registry : Registry) : Option String → List LogEvent
  | some id => Fixture.checkRuleLog registry id
  | none => Fixture.checkAllLog registry

end Fixtures

namespace Invocation

def run (i : Invocation) (view : FileView) (root : String) : Except LintError Answer :=
  match i.action with
  | .check files format => Check.run view .builtin root i.config files format
  | .fixtures rule => Fixtures.run .builtin rule

def runLog (i : Invocation) (view : FileView) (root : String) : List LogEvent :=
  match i.action with
  | .check files format => Check.runLog view .builtin root i.config files format
  | .fixtures rule => Fixtures.runLog .builtin rule

def paths (i : Invocation) (root : String) : List String :=
  match i.action with
  | .check files _ => i.config.toList ++ Lint.LintConfig.candidates root ++ files
  | .fixtures _ => []

end Invocation

end Proofread.Command
