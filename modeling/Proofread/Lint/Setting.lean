import Proofread.Json.Printer
import Proofread.Lint.Error

set_option autoImplicit false

namespace Proofread.Lint

open Json (Value Number)

inductive Severity where
  | off
  | warn
  | error
deriving DecidableEq, Repr

namespace Severity

def ofLevel? (level : Int) : Option Severity :=
  if level = 0 then some off
  else if level = 1 then some warn
  else if level = 2 then some error
  else none

def ofKeyword? (keyword : String) : Option Severity :=
  if keyword = "off" then some off
  else if keyword = "on" ∨ keyword = "warn" then some warn
  else if keyword = "error" then some error
  else none

def level : Severity → Nat
  | off => 0
  | warn => 1
  | error => 2

def render : Severity → String
  | off => "off"
  | warn => "warn"
  | error => "error"

end Severity

inductive Setting where
  | absent
  | flag (on : Bool)
  | level (n : Int)
  | keyword (word : String)
  | number (literal : String)
  | withOptions (severity : Setting) (options : Option Value)
  | options (value : Value)
deriving Repr

namespace Setting

def ofScalar? : Value → Option Setting
  | .bool b => some (flag b)
  | .number n =>
      match n.signed? with
      | some k => some (level k)
      | none => some (number n.render)
  | .string s => some (keyword s)
  | .null | .array _ | .object _ => none

def ofJson : Value → Setting
  | .null => absent
  | .array (head :: tail) =>
      match ofScalar? head with
      | some severity => withOptions severity tail.head?
      | none => options (.array (head :: tail))
  | value => (ofScalar? value).getD (options value)

end Setting

structure Resolved where
  enabled : Bool
  fatal : Option Bool
  options : Option Value
deriving DecidableEq, Repr

namespace Resolved

def ofSeverity (severity : Severity) (options : Option Value) : Resolved :=
  match severity with
  | .off => ⟨false, none, options⟩
  | .warn => ⟨true, some false, options⟩
  | .error => ⟨true, some true, options⟩

def severity (r : Resolved) : Severity :=
  if r.enabled then
    if r.fatal = some true then .error else .warn
  else .off

@[simp] theorem of_severity_severity (severity : Severity) (options : Option Value) :
    (ofSeverity severity options).severity = severity := by
  cases severity <;> rfl

@[simp] theorem of_severity_options (severity : Severity) (options : Option Value) :
    (ofSeverity severity options).options = options := by
  cases severity <;> rfl

@[simp] theorem of_severity_enabled (severity : Severity) (options : Option Value) :
    (ofSeverity severity options).enabled = true ↔ severity ≠ .off := by
  cases severity <;> simp [ofSeverity]

end Resolved

def resolve (ruleId : String) : Setting → Except LintError Resolved
  | .absent => .ok (.ofSeverity .off none)
  | .flag on => .ok (.ofSeverity (if on then .error else .off) none)
  | .level n =>
      match Severity.ofLevel? n with
      | some severity => .ok (.ofSeverity severity none)
      | none => .error (.invalidSeverity ruleId (toString n))
  | .keyword word =>
      match Severity.ofKeyword? word with
      | some severity => .ok (.ofSeverity severity none)
      | none => .error (.invalidSeverity ruleId word)
  | .number literal => .error (.invalidSeverity ruleId literal)
  | .withOptions severity options =>
      match resolve ruleId severity with
      | .ok resolved => .ok { resolved with options := options }
      | .error e => .error e
  | .options value => .ok (.ofSeverity .warn (some value))

end Proofread.Lint
