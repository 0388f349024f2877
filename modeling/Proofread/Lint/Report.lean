import Proofread.Json.Printer
import Proofread.Lint.Message

set_option autoImplicit false

namespace Proofread.Lint

open Json (Value)

inductive ReportFormat where
  | human
  | json
deriving DecidableEq, Repr

def ReportFormat.ofName? (name : String) : Option ReportFormat :=
  if name = "human" then some .human
  else if name = "json" then some .json
  else none

namespace Report

def errorCount (messages : List Message) : Nat :=
  messages.countP Message.isFatal

def warningCount (messages : List Message) : Nat :=
  messages.countP Message.isWarning

def humanLine (m : Message) : String :=
  m.render ++ "  " ++ m.severityLabel ++ "  " ++ m.ruleId ++ "\n"

def human (messages : List Message) : String :=
  let errors := errorCount messages
  let warnings := warningCount messages
  let summary :=
    if 0 < errors ∨ 0 < warnings then
      "Found " ++ toString errors ++ " error(s) and " ++ toString warnings ++ " warning(s)\n"
    else ""
  String.join (messages.map humanLine) ++ summary

def placeFields (lineName columnName : String) : Option Point → List (String × Value)
  | none => []
  | some p => [(lineName, .ofNat p.line), (columnName, .ofNat p.column)]

def fileFields : Option String → List (String × Value)
  | none => []
  | some file => [("file", .string file)]

def jsonMessage (m : Message) : Value :=
  .object ([("rule_id", .string m.ruleId), ("severity", .string m.severityLabel),
    ("reason", .string m.reason), ("source", .string m.source)] ++ fileFields m.file ++
    placeFields "line" "column" m.start? ++
    placeFields "end_line" "end_column" (m.location.bind Location.stop?))

def jsonSummary (messages : List Message) : Value :=
  .object [("total", .ofNat messages.length), ("errors", .ofNat (errorCount messages)),
    ("warnings", .ofNat (warningCount messages))]

def json (messages : List Message) : String :=
  Value.indented 0 (.object [("messages", .array (messages.map jsonMessage)),
    ("summary", jsonSummary messages)])

end Report

def ReportFormat.render (format : ReportFormat) (messages : List Message) : String :=
  match format with
  | .human => Report.human messages
  | .json => Report.json messages

end Proofread.Lint
