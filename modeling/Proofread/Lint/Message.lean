import Proofread.Document.Point
import Proofread.Json.Value

set_option autoImplicit false

namespace Proofread.Lint

def engineTag : String := "marklint"

structure Message where
  ruleId : String
  reason : String
  file : Option String
  location : Option Location
  fatal : Option Bool
  source : String
deriving DecidableEq, Repr

namespace Message

def plain (ruleId reason : String) : Message :=
  ⟨ruleId, reason, none, none, none, engineTag⟩

def start? (m : Message) : Option Point :=
  m.location.map Location.start

def isFatal (m : Message) : Bool :=
  m.fatal = some true

def isWarning (m : Message) : Bool :=
  m.fatal = some false

def render (m : Message) : String :=
  match m.file, m.location with
  | some file, some location => file ++ ":" ++ location.render ++ ": " ++ m.reason
  | none, some location => location.render ++ ": " ++ m.reason
  | some file, none => file ++ ": " ++ m.reason
  | none, none => m.reason

def severityLabel (m : Message) : String :=
  match m.fatal with
  | some true => "error"
  | some false => "warning"
  | none => "info"

end Message

abbrev Settings := Json.Fields

structure LintFile where
  path : Option String
  contents : String
  messages : List Message
deriving DecidableEq, Repr

namespace LintFile

def ofContents (contents : String) : LintFile :=
  ⟨none, contents, []⟩

def withPath (file : LintFile) (path : String) : LintFile :=
  { file with path := some path }

def hasFatal (file : LintFile) : Bool :=
  file.messages.any Message.isFatal

def append (file : LintFile) (messages : List Message) : LintFile :=
  { file with messages := file.messages ++ messages }

@[simp] theorem append_nil (file : LintFile) : file.append [] = file := by
  simp only [append, List.append_nil]

@[simp] theorem append_append (file : LintFile) (a b : List Message) :
    (file.append a).append b = file.append (a ++ b) := by
  simp only [append, List.append_assoc]

end LintFile

structure RuleContext where
  contents : String
  path : Option String
  settings : Settings
  ruleId : String
deriving DecidableEq, Repr

inductive Emission where
  | report (reason : String) (location : Option Location)
  | push (message : Message)
deriving DecidableEq, Repr

namespace Emission

def toMessage (path : Option String) (ruleId : String) (fatal : Option Bool) :
    Emission → Message
  | report reason location => ⟨ruleId, reason, path, location, fatal, engineTag⟩
  | push message => { message with file := message.file.or path }

end Emission

end Proofread.Lint
