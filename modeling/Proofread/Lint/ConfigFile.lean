import Proofread.Files.View
import Proofread.Lint.Config
import Proofread.Text.Blank
import Proofread.Yaml.Data

set_option autoImplicit false

namespace Proofread.Lint

open Files (FileView)
open Json (Value)
open Yaml (Decoder Place)

namespace LintConfig

structure Draft where
  rules : Option (NameMap Value)
  settings : Option Settings

def decodeField (draft : Draft) (name : String) (twice : Decoder Unit) (place : Place) (n : Yaml.Node) :
    Decoder Draft := do
  let fields := Decoder.map Decoder.json place n
  if name = "rules" then return { draft with rules := ← Decoder.once draft.rules twice fields }
  else if name = "settings" then
    return { draft with settings := ← Decoder.once draft.settings twice ((·.entries) <$> fields) }
  else do
    Decoder.ignore n
    return draft

def decode : Place → Yaml.Node → Decoder LintConfig :=
  Decoder.record "struct LintConfig" ⟨none, none⟩ decodeField fun _ _ draft =>
    return ⟨draft.rules.getD .empty, draft.settings.getD []⟩

def parse (contents path : String) : Except LintError LintConfig :=
  if (Text.trimString contents).isEmpty then .ok .empty
  else match Yaml.decode decode contents with
    | .ok config => .ok config
    | .error fault => .error (.configSyntax path fault.message)

def fileName : String := ".marklint.yml"

def candidates (root : String) : List String :=
  (root :: Files.parents root).map fun directory => Files.join directory fileName

def find? (view : FileView) (root : String) : Option String :=
  (candidates root).find? view.isFile

def load (view : FileView) (path : String) : Except LintError LintConfig :=
  match view.read path with
  | .error .notFound => .error (.configNotFound path)
  | .error fault => .error (.file fault)
  | .ok contents => parse contents path

end LintConfig

end Proofread.Lint
