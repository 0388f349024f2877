import Proofread.Fixture.Conformance

set_option autoImplicit false

namespace Proofread.Fixture

open Lint (LintError LintFile LogEvent Outcome Pipeline Registry Rule)

def actualLog (name : String) : Outcome → List LogEvent
  | .processingFailure failure =>
      if failure.isEngine then
        [.debug ("Recording engine failure in " ++ name ++ ": " ++ failure.reason)]
      else []
  | _ => []

def runLog (p : Pipeline) (name : String) (file : LintFile) : List LogEvent :=
  p.processLog file ++ actualLog name (p.process file)

def checkCaseLog (rule : Rule) (ruleId setting : String) (config : Json.Value) (name : String)
    (c : Case) : List LogEvent :=
  let file := caseFile name c
  let attaching := (Pipeline.empty.withSettings c.settings).attachLog rule (.ofJson config)
  let running := match casePipeline rule config c with
    | .error _ => []
    | .ok p =>
        runLog p name file ++
          match actual ruleId (p.process file) with
          | .error _ => []
          | .ok _ => if c.positionless then [] else runLog p.withoutSpans name file
  .debug ("Checking " ++ ruleId ++ " " ++ name ++ " with `" ++ setting ++ "`") ::
    attaching ++ running

def checkCasesLog (rule : Rule) (ruleId setting : String) (config : Json.Value) :
    List (String × Case) → List LogEvent
  | [] => []
  | (name, c) :: rest =>
      checkCaseLog rule ruleId setting config name c ++
        match checkCase rule ruleId setting config name c with
        | .error _ => []
        | .ok _ => checkCasesLog rule ruleId setting config rest

def checkTestsLog (rule : Rule) (ruleId : String) :
    List (String × NameMap Case) → List LogEvent
  | [] => []
  | (setting, cases) :: rest =>
      match settingValue ruleId setting with
      | .error _ => []
      | .ok config =>
          checkCasesLog rule ruleId setting config cases.entries ++
            match checkCases rule ruleId setting config cases.entries with
            | .error _ => []
            | .ok _ => checkTestsLog rule ruleId rest

def checkDescriptorLog (rule : Rule) (d : Descriptor) : List LogEvent :=
  checkTestsLog rule d.ruleId d.tests.entries

def checkRuleLog (registry : Registry) (ruleId : String) : List LogEvent :=
  match registry.get? ruleId, descriptor ruleId with
  | some rule, .ok d => checkDescriptorLog rule d
  | _, _ => []

def checkIdsLog (registry : Registry) : List String → List LogEvent
  | [] => []
  | id :: rest =>
      checkRuleLog registry id ++
        match checkRule registry id with
        | .error _ => []
        | .ok _ => checkIdsLog registry rest

def checkAllLog (registry : Registry) : List LogEvent :=
  checkIdsLog registry registry.ids

end Proofread.Fixture
