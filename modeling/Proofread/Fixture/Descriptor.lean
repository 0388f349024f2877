import Proofread.Lint.Error
import Proofread.Lint.Message
import Proofread.Yaml.Data

set_option autoImplicit false

namespace Proofread.Fixture

open Lint (LintError Settings)
open Yaml (Data Decoder Mark Place)

structure Case where
  input : String
  /-- The rule does not depend on the places in the tree, so it is not checked without them. -/
  positionless : Bool
  settings : Settings
  output : List String
deriving DecidableEq, Repr

def Case.empty : Case :=
  ⟨"", false, [], []⟩

structure Descriptor where
  ruleId : String
  tests : NameMap (NameMap Case)
deriving DecidableEq, Repr

def expandMark (c : Char) : Char :=
  if c = '»' then '\t' else if c = '·' then ' ' else c

def preprocess (input : String) : String :=
  String.ofList (input.toList.map expandMark)

structure CaseConfig where
  positionless : Option Bool
  others : List (String × Data)

namespace CaseConfig

def decodeField (draft : CaseConfig) (name : String) (twice : Decoder Unit) (place : Place)
    (n : Yaml.Node) : Decoder CaseConfig := do
  if name = "positionless" then
    return { draft with
      positionless := ← Decoder.once draft.positionless twice (Decoder.bool place n) }
  else return { draft with others := (name, ← Decoder.data place n) :: draft.others }

def settingsOf (known : Settings) : List (String × Data) → Except Yaml.Mismatch Settings
  | [] => .ok known
  | (name, d) :: rest => do
      let value ← d.toJson
      settingsOf (insertByName name value known) rest

def complete (place : Place) (mark : Mark) (draft : CaseConfig) : Decoder (Bool × Settings) :=
  match settingsOf [] draft.others.reverse with
  | .ok settings => return (draft.positionless.getD false, settings)
  | .error m => Decoder.fail place mark m

def decode : Place → Yaml.Node → Decoder (Bool × Settings) :=
  Decoder.record "struct FixtureConfig" ⟨none, []⟩ decodeField complete

end CaseConfig

structure CaseDraft where
  input : Option String
  config : Option (Bool × Settings)
  output : Option (List String)

namespace CaseDraft

def decodeField (draft : CaseDraft) (name : String) (twice : Decoder Unit) (place : Place)
    (n : Yaml.Node) : Decoder CaseDraft := do
  if name = "input" then
    return { draft with
      input := ← Decoder.once draft.input twice (Decoder.string "a string" place n) }
  else if name = "config" then
    return { draft with config := ← Decoder.once draft.config twice (CaseConfig.decode place n) }
  else if name = "output" then
    return { draft with
      output := ← Decoder.once draft.output twice
        (Decoder.list (Decoder.string "a string") place n) }
  else do
    Decoder.ignore n
    return draft

def complete (_ : Place) (_ : Mark) (draft : CaseDraft) : Decoder Case :=
  let (positionless, settings) := draft.config.getD (false, [])
  return ⟨draft.input.getD "", positionless, settings, draft.output.getD []⟩

end CaseDraft

def Case.decode : Place → Yaml.Node → Decoder Case :=
  Decoder.record "struct Fixture" ⟨none, none, none⟩ CaseDraft.decodeField CaseDraft.complete

structure DescriptorDraft where
  ruleId : Option String
  tests : Option (NameMap (NameMap Case))

namespace DescriptorDraft

def decodeField (draft : DescriptorDraft) (name : String) (twice : Decoder Unit) (place : Place)
    (n : Yaml.Node) : Decoder DescriptorDraft := do
  if name = "rule_id" then
    return { draft with
      ruleId := ← Decoder.once draft.ruleId twice (Decoder.string "a string" place n) }
  else if name = "tests" then
    return { draft with
      tests := ← Decoder.once draft.tests twice
        (Decoder.map (Decoder.map Case.decode) place n) }
  else do
    Decoder.ignore n
    return draft

def complete (place : Place) (mark : Mark) (draft : DescriptorDraft) : Decoder Descriptor := do
  let ruleId ← Decoder.required "rule_id" place mark draft.ruleId
  let tests ← Decoder.required "tests" place mark draft.tests
  return ⟨ruleId, tests⟩

end DescriptorDraft

namespace Descriptor

def decode : Place → Yaml.Node → Decoder Descriptor :=
  Decoder.record "struct RuleDescriptor" ⟨none, none⟩ DescriptorDraft.decodeField
    DescriptorDraft.complete

def parse (contents : String) : Except Yaml.Fault Descriptor :=
  Yaml.decode decode contents

def load (ruleId contents : String) : Except LintError Descriptor :=
  match parse contents with
  | .error fault => .error (.fixtures ruleId fault.message)
  | .ok d =>
      if d.ruleId ≠ ruleId then
        .error (.fixtures ruleId ("declares rule `" ++ d.ruleId ++ "`"))
      else .ok d

end Descriptor

end Proofread.Fixture
