import Proofread.Document.Node
import Proofread.Lint.Message
import Proofread.Lint.Setting

set_option autoImplicit false

namespace Proofread.Lint

open Json (Value)

/-- Why a rule stopped: for reasons that it gives, the outermost first, or because a number left its
range. -/
inductive Failure where
  | reasons (texts : List String)
  | overflow
deriving DecidableEq, Repr

structure Findings where
  emissions : List Emission
  failure : Option Failure
deriving DecidableEq, Repr

namespace Findings

def ofEmissions (emissions : List Emission) : Findings :=
  ⟨emissions, none⟩

def failed (reason : String) : Findings :=
  ⟨[], some (.reasons [reason])⟩

def overflowed : Findings :=
  ⟨[], some .overflow⟩

end Findings

structure Rule where
  id : String
  description : String
  defaultSeverity : Severity
  validate : Option Value → Except String Unit
  check : Node → RuleContext → Option Value → Findings

def acceptAll (_ : Option Value) : Except String Unit :=
  .ok ()

end Proofread.Lint
