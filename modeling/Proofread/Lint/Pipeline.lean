import Proofread.Lint.Controls
import Proofread.Lint.Outcome
import Proofread.Lint.Rule
import Proofread.Markdown.Parse

set_option autoImplicit false

namespace Proofread.Lint

structure AttachedRule where
  rule : Rule
  ruleId : String
  config : Resolved

structure Pipeline where
  attached : List AttachedRule
  settings : Settings
  stripSpans : Bool

namespace Pipeline

def empty : Pipeline :=
  ⟨[], [], false⟩

def withSettings (p : Pipeline) (settings : Settings) : Pipeline :=
  { p with settings := settings }

def withoutSpans (p : Pipeline) : Pipeline :=
  { p with stripSpans := true }

/-- The resolved setting of a rule to attach. A bare flag is about the rule as a whole: `none` if it
is switched off, and the standard severity if it is switched on. -/
def settle (rule : Rule) : Setting → Except LintError (Option Resolved)
  | .flag false => .ok none
  | .flag true => .ok (some (.ofSeverity rule.defaultSeverity none))
  | setting => (resolve rule.id setting).map some

def attach (p : Pipeline) (rule : Rule) (setting : Setting) : Except LintError Pipeline :=
  match settle rule setting with
  | .error e => .error e
  | .ok none => .ok p
  | .ok (some config) =>
      match rule.validate config.options with
      | .error detail => .error (.invalidOptions rule.id detail)
      | .ok () => .ok { p with attached := p.attached ++ [⟨rule, rule.id, config⟩] }

def findings (p : Pipeline) (a : AttachedRule) (tree : Node) (file : LintFile) : Findings :=
  a.rule.check tree ⟨file.contents, file.path, p.settings, a.ruleId⟩ a.config.options

def messagesOf (a : AttachedRule) (file : LintFile) (found : Findings) : List Message :=
  found.emissions.map (Emission.toMessage file.path a.ruleId a.config.fatal)

def stopped (a : AttachedRule) (after : LintFile) : Failure → Outcome
  | .reasons texts => .processingFailure ⟨a.ruleId, ": ".intercalate texts, none, none, after⟩
  | .overflow => .overflow

def runRules (p : Pipeline) (tree : Node) :
    List AttachedRule → LintFile → Except Outcome LintFile
  | [], file => .ok file
  | a :: rest, file =>
      let found := p.findings a tree file
      let after := file.append (messagesOf a file found)
      match found.failure with
      | some why => .error (stopped a after why)
      | none => runRules p tree rest after

def enabledRules (p : Pipeline) : List AttachedRule :=
  p.attached.filter (·.config.enabled)

def view (p : Pipeline) (tree : Node) : Node :=
  if p.stripSpans then tree.withoutSpans else tree

def processTree (p : Pipeline) (tree : Node) (file : LintFile) : Outcome :=
  let tree := p.view tree
  match p.runRules tree p.enabledRules file with
  | .error outcome => outcome
  | .ok after =>
      match Controls.apply tree after with
      | .ok kept => .success kept
      | .error e =>
          .processingFailure ⟨controlRuleId, e.reason, some engineTag, some e.span, after⟩

def process (p : Pipeline) (file : LintFile) : Outcome :=
  p.processTree (Markdown.parse file.contents) file

end Pipeline

end Proofread.Lint
