import Proofread.Markdown.Container
import Proofread.Markdown.Link

set_option autoImplicit false

namespace Proofread.Markdown

open Chars

structure Definition where
  label : List Char
  url : String
deriving DecidableEq, Repr

structure FoundDefinition where
  stop : Nat
  definition : Definition

def resumeDefinition? (cs : Chars) (containers : List Container) (i : Nat) : Option Nat :=
  let (same, cursor) := enterLine cs containers i
  let indented := cursor.skipSpaces cs 4
  if indented.2 == 0 then some indented.1.pos
  else
    let j := indented.1.pos
    if interruptsParagraph cs j same || (same && (underline? cs j).isSome) then none
    else some j

def definitionBlanks? (cs : Chars) (containers : List Container) (i : Nat) :
    Option (Nat × Bool) :=
  let j := skipWhile isLineBlank cs i
  match cs.lineEnd? j with
  | none => some (j, false)
  | some next =>
      match resumeDefinition? cs containers next with
      | none => none
      | some k =>
          let stop := skipWhile isLineBlank cs k
          if cs.isAtLineEnd stop then none else some (stop, true)

def definitionTitleEnd? (cs : Chars) (containers : List Container) (closer : Char) (i : Nat) :
    Option Nat :=
  if h : i < cs.size then
    let c := cs[i]
    if c == '(' && closer == ')' then none
    else if isLineEnd c then
      match resumeDefinition? cs containers ((cs.lineEnd? i).getD (i + 1)) with
      | none => none
      | some j =>
          let next := skipWhile isTabOrSpace cs j
          if i < next then definitionTitleEnd? cs containers closer next else none
    else if c == '\\' then
      if cs[i + 1]?.any fun d => !isLineEnd d then
        definitionTitleEnd? cs containers closer (i + 2)
      else definitionTitleEnd? cs containers closer (i + 1)
    else if c == closer then some (i + 1)
    else definitionTitleEnd? cs containers closer (i + 1)
  else none
termination_by cs.size - i

def definitionTitle? (cs : Chars) (containers : List Container) (i : Nat) : Option Nat :=
  match cs[i]?.bind titleCloser? with
  | none => none
  | some closer =>
      match definitionTitleEnd? cs containers closer (i + 1) with
      | none => none
      | some j => if cs.isBlankLine j then some j else none

def definitionTarget? (cs : Chars) (containers : List Container) (label : List Char) (i : Nat) :
    Option FoundDefinition :=
  match definitionBlanks? cs containers i with
  | none => none
  | some (start, _) =>
      match destination? cs 1 start with
      | none => none
      | some destination =>
          if destination.stop == start then none
          else
            let bare : FoundDefinition :=
              ⟨destination.stop, ⟨label, unescape destination.source⟩⟩
            match definitionBlanks? cs containers destination.stop with
            | none => some bare
            | some (next, newline) =>
                if next == destination.stop then none
                else
                  match definitionTitle? cs containers next with
                  | some stop => some { bare with stop := stop }
                  | none => if newline then some bare else none

def definition? (cs : Chars) (containers : List Container) (i : Nat) : Option FoundDefinition :=
  if cs.has i '[' then
    match label? cs (resumeDefinition? cs containers) (i + 1) with
    | none => none
    | some (stop, label) =>
        if cs.has stop ':' then definitionTarget? cs containers label (stop + 1) else none
  else none

end Proofread.Markdown
