import Proofread.Lint.Rule

set_option autoImplicit false

namespace Proofread.Lint.Rules

def charPointsFrom (needle : Char) (place : Point) : List Char → List Point
  | [] => []
  | c :: rest =>
      let offset := place.offset + c.utf8Size
      let next : Point :=
        if c = '\n' then ⟨place.line + 1, 1, offset⟩ else ⟨place.line, place.column + 1, offset⟩
      if c = needle then place :: charPointsFrom needle next rest
      else charPointsFrom needle next rest

def charPoints (contents : String) (needle : Char) : List Point :=
  charPointsFrom needle ⟨1, 1, 0⟩ contents.toList

def endsWithNewline (contents : String) : Bool :=
  contents.toList.getLast? == some '\n'

def finalNewline : Rule where
  id := "final-newline"
  description := "Files should end with a newline character"
  defaultSeverity := .warn
  validate := acceptAll
  check _ context _ :=
    if context.contents ≠ "" && !endsWithNewline context.contents then
      .ofEmissions [.report "Missing newline character at end of file" (some (.point ⟨1, 1, 0⟩))]
    else .ofEmissions []

def noTabs : Rule where
  id := "no-tabs"
  description := "Use spaces instead of hard tabs"
  defaultSeverity := .warn
  validate := acceptAll
  check _ context _ :=
    .ofEmissions ((charPoints context.contents '\t').map fun place =>
      .report "Use spaces instead of hard-tabs" (some (.point place)))

end Proofread.Lint.Rules
