import Proofread.Command.Invocation
import Proofread.Lint.ConfigFile
import Proofread.Lint.Report
import Proofread.Lint.Trace

set_option autoImplicit false

namespace Proofread.Command

open Files (FileView)
open Lint (LintConfig LintError LintFile LogEvent Message Outcome Pipeline Registry ReportFormat)

structure Batch where
  messages : List Message
  problems : List String
  failed : Bool
deriving DecidableEq, Repr

namespace Batch

def empty : Batch :=
  ⟨[], [], false⟩

def append (a b : Batch) : Batch :=
  ⟨a.messages ++ b.messages, a.problems ++ b.problems, a.failed || b.failed⟩

def exitCode (b : Batch) : Nat :=
  if b.failed || b.messages.any Message.isFatal then Answer.foundCode else 0

def answer (b : Batch) (format : ReportFormat) : Answer :=
  ⟨b.exitCode, format.render b.messages, lines b.problems⟩

end Batch

namespace Check

/-- The configuration at a given path, or the nearest one, or one that switches every rule on. A
configuration that is there but faulty is never passed over. -/
def chooseConfig (view : FileView) (registry : Registry) (root : String) :
    Option String → Except LintError LintConfig
  | some path => LintConfig.load view path
  | none =>
      match LintConfig.find? view root with
      | some path => LintConfig.load view path
      | none => .ok (.allRules registry)

def setUp (view : FileView) (registry : Registry) (root : String) (config : Option String)
    (format : String) : Except LintError (Pipeline × ReportFormat) :=
  match ReportFormat.ofName? format with
  | none => .error (.unknownFormat format)
  | some format =>
      match chooseConfig view registry root config with
      | .error e => .error e
      | .ok config => (Pipeline.ofConfig registry config).map fun p => (p, format)

/-- A failure of the engine is a message too; one of a rule is only a problem. -/
def ofOutcome : Outcome → Except LintError Batch
  | .processingFailure failure =>
      let own := if failure.isEngine then [failure.message] else []
      .ok ⟨failure.file.messages ++ own, [failure.render], true⟩
  | outcome => outcome.toExcept.map fun file => ⟨file.messages, [], false⟩

def document (path contents : String) : LintFile :=
  (LintFile.ofContents contents).withPath path

def ofPath (view : FileView) (p : Pipeline) (path : String) : Except LintError Batch :=
  match view.read path with
  | .error fault => .ok ⟨[], [path ++ ": " ++ fault.message], true⟩
  | .ok contents => ofOutcome (p.process (document path contents))

def ofPaths (view : FileView) (p : Pipeline) : List String → Except LintError Batch
  | [] => .ok .empty
  | path :: rest => do
      let batch ← ofPath view p path
      let batches ← ofPaths view p rest
      .ok (batch.append batches)

def setUpAnswer (e : LintError) : Answer :=
  ⟨Answer.setupCode, "", lines ["Error: " ++ e.message]⟩

def run (view : FileView) (registry : Registry) (root : String) (config : Option String)
    (files : List String) (format : String) : Except LintError Answer :=
  match setUp view registry root config format with
  | .error e => .ok (setUpAnswer e)
  | .ok (p, format) => (ofPaths view p files).map fun batch => batch.answer format

def chooseConfigLog (view : FileView) (root : String) : Option String → List LogEvent
  | some _ => []
  | none =>
      match LintConfig.find? view root with
      | some path => [.debug ("Using config " ++ path)]
      | none => [.debug "No config found, enabling all rules"]

def setUpLog (view : FileView) (registry : Registry) (root : String) (config : Option String)
    (format : String) : List LogEvent :=
  match ReportFormat.ofName? format with
  | none => []
  | some _ =>
      chooseConfigLog view root config ++
        match chooseConfig view registry root config with
        | .error _ => []
        | .ok config => Pipeline.ofConfigLog registry config

def pathLog (view : FileView) (p : Pipeline) (path : String) : List LogEvent :=
  match view.read path with
  | .error _ => []
  | .ok contents => p.processLog (document path contents)

def runLog (view : FileView) (registry : Registry) (root : String) (config : Option String)
    (files : List String) (format : String) : List LogEvent :=
  setUpLog view registry root config format ++
    match setUp view registry root config format with
    | .error _ => []
    | .ok (p, _) => files.flatMap (pathLog view p)

end Check

end Proofread.Command
