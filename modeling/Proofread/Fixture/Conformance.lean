import Proofread.Fixture.Builtin
import Proofread.Json.Parser
import Proofread.Lint.Trace

set_option autoImplicit false

namespace Proofread.Fixture

open Lint (LintError LintFile LogEvent Message Outcome Pipeline Registry Rule Setting)

structure Comparison where
  expected : List String
  actual : List String
deriving DecidableEq, Repr

def Comparison.passed (c : Comparison) : Bool :=
  c.expected == c.actual

structure CaseReport where
  setting : String
  name : String
  withSpans : Comparison
  withoutSpans : Option Comparison
deriving DecidableEq, Repr

def CaseReport.passed (r : CaseReport) : Bool :=
  r.withSpans.passed && r.withoutSpans.all Comparison.passed

structure RuleReport where
  ruleId : String
  cases : List CaseReport
deriving DecidableEq, Repr

namespace RuleReport

def passed (r : RuleReport) : Bool :=
  r.cases.all CaseReport.passed

def failures (r : RuleReport) : List CaseReport :=
  r.cases.filter fun c => !c.passed

end RuleReport

def afterColon (text : List Char) : List Char :=
  match text.dropWhile (· ≠ ':') with
  | [] => text
  | _ :: rest => rest

def normalize (m : Message) : String :=
  String.ofList (afterColon m.render.toList)

def rendered (ruleId : String) : List Message → Except LintError (List String)
  | [] => .ok []
  | m :: rest =>
      if m.ruleId ≠ ruleId then .error (.ruleIdMismatch ruleId m.ruleId m.render)
      else (rendered ruleId rest).map (normalize m :: ·)

/-- The messages of one run. A failure of the engine counts as one more message. -/
def actual (ruleId : String) (outcome : Outcome) : Except LintError (List String) :=
  match outcome with
  | .processingFailure failure =>
      if failure.isEngine then
        (rendered ruleId failure.file.messages).map (· ++ [normalize failure.message])
      else .error (.ruleFailed failure.ruleId failure.reason)
  | .success file => rendered ruleId file.messages
  | .configurationError e => .error e
  | .overflow => .error .overflow

def caseFile (name : String) (c : Case) : LintFile :=
  (LintFile.ofContents (preprocess c.input)).withPath name

def casePipeline (rule : Rule) (config : Json.Value) (c : Case) : Except LintError Pipeline :=
  (Pipeline.empty.withSettings c.settings).attach rule (.ofJson config)

def checkCase (rule : Rule) (ruleId setting : String) (config : Json.Value) (name : String)
    (c : Case) : Except LintError CaseReport := do
  let p ← casePipeline rule config c
  let file := caseFile name c
  let placed ← actual ruleId (p.process file)
  let withSpans : Comparison := ⟨c.output, placed⟩
  if c.positionless then .ok ⟨setting, name, withSpans, none⟩
  else
    let stripped ← actual ruleId (p.withoutSpans.process file)
    .ok ⟨setting, name, withSpans, some ⟨[], stripped⟩⟩

def checkCases (rule : Rule) (ruleId setting : String) (config : Json.Value) :
    List (String × Case) → Except LintError (List CaseReport)
  | [] => .ok []
  | (name, c) :: rest => do
      let report ← checkCase rule ruleId setting config name c
      let reports ← checkCases rule ruleId setting config rest
      .ok (report :: reports)

def settingValue (ruleId setting : String) : Except LintError Json.Value :=
  (Json.parse setting).mapError fun e =>
    .fixtures ruleId ("setting `" ++ setting ++ "`: " ++ e.message)

def checkTests (rule : Rule) (ruleId : String) :
    List (String × NameMap Case) → Except LintError (List CaseReport)
  | [] => .ok []
  | (setting, cases) :: rest => do
      let config ← settingValue ruleId setting
      let reports ← checkCases rule ruleId setting config cases.entries
      let others ← checkTests rule ruleId rest
      .ok (reports ++ others)

def checkDescriptor (rule : Rule) (d : Descriptor) : Except LintError RuleReport :=
  (checkTests rule d.ruleId d.tests.entries).map fun cases => ⟨d.ruleId, cases⟩

def checkRule (registry : Registry) (ruleId : String) : Except LintError RuleReport :=
  match registry.get? ruleId with
  | none => .error (.unknownRule ruleId)
  | some rule =>
      match descriptor ruleId with
      | .error e => .error e
      | .ok d => checkDescriptor rule d

def checkIds (registry : Registry) : List String → Except LintError (List RuleReport)
  | [] => .ok []
  | id :: rest => do
      let report ← checkRule registry id
      let reports ← checkIds registry rest
      .ok (report :: reports)

def checkAll (registry : Registry) : Except LintError (List RuleReport) :=
  checkIds registry registry.ids

end Proofread.Fixture
