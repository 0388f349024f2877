import Proofread.Markdown.Event
import Proofread.Markdown.Html

set_option autoImplicit false

namespace Proofread.Markdown

open Chars

def breakLine? (cs : Chars) (mark : Char) (i count : Nat) : Option Nat :=
  if h : i < cs.size then
    let c := cs[i]
    if isLineEnd c then (if 3 ≤ count then cs.lineEnd? i else none)
    else if c == mark then breakLine? cs mark (i + 1) (count + 1)
    else if isTabOrSpace c then breakLine? cs mark (i + 1) count
    else none
  else if 3 ≤ count then some i else none
termination_by cs.size - i

def thematicBreak? (cs : Chars) (i : Nat) : Option Nat :=
  match cs[i]? with
  | some c => if c == '*' || c == '-' || c == '_' then breakLine? cs c i 0 else none
  | none => none

def headingMarks? (cs : Chars) (i : Nat) : Option (HeadingLevel × Nat) :=
  let count := cs.runLength '#' i
  let ends := match cs[i + count]? with
    | none => true
    | some c => isAsciiBlank c
  if ends then (HeadingLevel.ofMarks? count).map fun level => (level, i + count) else none

def underline? (cs : Chars) (i : Nat) : Option (HeadingLevel × Nat) :=
  let line (mark : Char) (level : HeadingLevel) :=
    (cs.blankLine? (i + cs.runLength mark i)).map fun j => (level, j)
  if cs.has i '=' then line '=' .h1
  else if cs.has i '-' then line '-' .h2
  else none

structure Fence where
  char : Char
  length : Nat
deriving DecidableEq, Repr

def fence? (cs : Chars) (i : Nat) : Option Fence :=
  match cs[i]? with
  | none => none
  | some c =>
      if c == '\x60' || c == '~' then
        let length := cs.runLength c i
        let rest := cs.slice (i + length) (cs.nextLine (i + length))
        if length < 3 || (c == '\x60' && rest.contains '\x60') then none
        else some ⟨c, length⟩
      else none

def closingFence? (cs : Chars) (fence : Fence) (i : Nat) : Option Nat :=
  if cs.atEnd i then some i
  else
    let length := cs.runLength fence.char i
    let j := skipWhile (· == ' ') cs (i + length)
    if fence.length ≤ length && cs.isAtLineEnd j then some j else none

def listMarkerEnd? (cs : Chars) (i : Nat) : Option (Nat × Bool) :=
  match cs[i]? with
  | none => none
  | some c =>
      if c == '-' || c == '+' || c == '*' then some (i + 1, true)
      else if c.isDigit then
        let stop := min (skipWhile Char.isDigit cs i) (i + 9)
        if cs.has stop '.' || cs.has stop ')' then
          let number := (cs.slice i stop).foldl (fun n d => n * 10 + (d.toNat - 48)) 0
          some (stop + 1, number == 1)
        else none
      else none

/-- Inside the containers of a paragraph, an item ends it only if it is not empty. -/
def listInterrupts (cs : Chars) (i : Nat) (sameContainers : Bool) : Bool :=
  match listMarkerEnd? cs i with
  | none => false
  | some (stop, mayInterrupt) =>
      let ends := cs.isAtLineEnd stop || cs[stop]?.any isTabOrSpace
      ends && (!sameContainers || (mayInterrupt && !cs.isBlankLine stop))

def interruptsParagraph (cs : Chars) (i : Nat) (sameContainers : Bool) : Bool :=
  cs.isAtLineEnd i || (thematicBreak? cs i).isSome || (headingMarks? cs i).isSome ||
    (fence? cs i).isSome || cs.has i '>' || listInterrupts cs i sameContainers ||
    (cs.has i '<' && ((htmlBlockEnd? cs (i + 1)).isSome || startsBlockTag cs (i + 1)))

end Proofread.Markdown
