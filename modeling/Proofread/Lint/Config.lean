import Proofread.Lint.Pipeline
import Proofread.Lint.Registry

set_option autoImplicit false

namespace Proofread.Lint

open Json (Value)

structure LintConfig where
  rules : NameMap Value
  settings : Settings
deriving DecidableEq, Repr

namespace LintConfig

def empty : LintConfig :=
  ⟨.empty, []⟩

def allRules (registry : Registry) : LintConfig :=
  ⟨registry.rules.map fun _ _ => .bool true, []⟩

end LintConfig

namespace Pipeline

def attachAll (registry : Registry) : Pipeline → List (String × Value) → Except LintError Pipeline
  | p, [] => .ok p
  | p, (id, value) :: rest =>
      match registry.get? id with
      | none => .error (.unknownRule id)
      | some rule =>
          match p.attach rule (.ofJson value) with
          | .error e => .error e
          | .ok next => attachAll registry next rest

def ofConfig (registry : Registry) (config : LintConfig) : Except LintError Pipeline :=
  attachAll registry (Pipeline.empty.withSettings config.settings) config.rules.entries

end Pipeline

def lintDocument (registry : Registry) (config : LintConfig) (file : LintFile) : Outcome :=
  match Pipeline.ofConfig registry config with
  | .ok p => p.process file
  | .error e => .configurationError e

end Proofread.Lint
