import Proofread.Lint.Config

/-!
What a run says about itself. The functions here follow those that attach and run rules, and list
the events that an observer is told, in order.
-/

set_option autoImplicit false

namespace Proofread.Lint

open Json (Value)

inductive LogLevel where
  | debug
  | warn
deriving DecidableEq, Repr

def LogLevel.render : LogLevel → String
  | debug => "DEBUG"
  | warn => "WARN"

structure LogEvent where
  level : LogLevel
  text : String
deriving DecidableEq, Repr

namespace LogEvent

def debug (text : String) : LogEvent := ⟨.debug, text⟩

def warn (text : String) : LogEvent := ⟨.warn, text⟩

def render (e : LogEvent) : String :=
  e.level.render ++ " " ++ e.text

end LogEvent

namespace Pipeline

def attachLog (p : Pipeline) (rule : Rule) (setting : Setting) : List LogEvent :=
  match settle rule setting, p.attach rule setting with
  | .ok none, _ => [.debug ("Skipping rule " ++ rule.id ++ ": turned off")]
  | .ok (some config), .ok _ =>
      [.debug ("Attached rule " ++ rule.id ++ " at " ++ config.severity.render)]
  | _, _ => []

def attachAllLog (registry : Registry) : Pipeline → List (String × Value) → List LogEvent
  | _, [] => []
  | p, (id, value) :: rest =>
      match registry.get? id with
      | none => []
      | some rule =>
          p.attachLog rule (.ofJson value) ++
            match p.attach rule (.ofJson value) with
            | .error _ => []
            | .ok next => attachAllLog registry next rest

def ofConfigLog (registry : Registry) (config : LintConfig) : List LogEvent :=
  attachAllLog registry (Pipeline.empty.withSettings config.settings) config.rules.entries

def stopLog (a : AttachedRule) : Failure → List LogEvent
  | .reasons texts => [.warn ("Rule " ++ a.ruleId ++ " failed: " ++ ": ".intercalate texts)]
  | .overflow => []

def runRulesLog (p : Pipeline) (tree : Node) : List AttachedRule → LintFile → List LogEvent
  | [], _ => []
  | a :: rest, file =>
      let found := p.findings a tree file
      match found.failure with
      | some why => stopLog a why
      | none =>
          .debug ("Rule " ++ a.ruleId ++ " found " ++ toString found.emissions.length ++
            " message(s)") ::
            runRulesLog p tree rest (file.append (messagesOf a file found))

def controlsLog (tree : Node) : List LogEvent :=
  match Controls.collect tree with
  | .ok _ => []
  | .error e => [.warn ("Directive at " ++ e.span.render ++ " failed: " ++ e.reason)]

def processTreeLog (p : Pipeline) (tree : Node) (file : LintFile) : List LogEvent :=
  let tree := p.view tree
  p.runRulesLog tree p.enabledRules file ++
    match p.runRules tree p.enabledRules file with
    | .ok _ => controlsLog tree
    | .error _ => []

def processLog (p : Pipeline) (file : LintFile) : List LogEvent :=
  p.processTreeLog (Markdown.parse file.contents) file

end Pipeline

def lintDocumentLog (registry : Registry) (config : LintConfig) (file : LintFile) :
    List LogEvent :=
  Pipeline.ofConfigLog registry config ++
    match Pipeline.ofConfig registry config with
    | .ok p => p.processLog file
    | .error _ => []

end Proofread.Lint
