import Proofread.Markdown.Container
import Proofread.Markdown.Token

set_option autoImplicit false

namespace Proofread.Markdown

inductive Inline where
  | text (start stop : Nat)
  | literal (value : String) (start stop : Nat)
  | code (value : String) (start stop : Nat)
  | html (value : String) (start stop : Nat)
  | softBreak (start stop : Nat)
  | hardBreak (backslash : Bool) (start stop : Nat)
  | marks (mark : Char) (count : Nat) (canOpen canClose : Bool) (start : Nat)
  | emphasis (strong : Bool) (start stop : Nat) (content : List Inline)
  | link (image : Bool) (url : String) (start stop : Nat) (content : List Inline)
deriving Repr

abbrev InlinesRev := List Inline

structure Opener where
  mark : Char
  count : Nat
  length : Nat
  both : Bool
  start : Nat
  before : InlinesRev
deriving Repr

structure Closer where
  mark : Char
  count : Nat
  length : Nat
  both : Bool
  start : Nat

/-- Two runs match if they are of one mark; if one of them could both open and close, their lengths
must not add up to a multiple of three, unless both are multiples of three. -/
def Opener.admits (opener : Opener) (closer : Closer) : Bool :=
  opener.mark == closer.mark &&
    ((!closer.both && !opener.both) || (closer.length + opener.length) % 3 != 0 ||
      closer.length % 3 == 0)

structure Emphasis where
  openers : List Opener
  content : InlinesRev
deriving Repr

namespace Emphasis

def flatten (opener : Opener) (after : InlinesRev) : InlinesRev :=
  after ++ .text opener.start (opener.start + opener.count) :: opener.before

def takeMatch? (closer : Closer) : List Opener → InlinesRev → Option (Opener × Emphasis)
  | [], _ => none
  | opener :: rest, content =>
      if opener.admits closer then some (opener, ⟨rest, content⟩)
      else takeMatch? closer rest (flatten opener content)

/-- Wraps content in `count` marks on each side, from the inside out: as long as two are left they
make it strong, and a single one emphasises it. The opening marks end at `left` and the closing ones
start at `right`. -/
def wrap (count left right : Nat) (content : InlinesRev) : InlinesRev :=
  match count with
  | 0 => content
  | 1 => [.emphasis false (left - 1) (right + 1) content.reverse]
  | n + 2 => wrap n (left - 2) (right + 2) [.emphasis true (left - 2) (right + 2) content.reverse]

def closeWith (closer : Closer) (state : Emphasis) : Closer × Emphasis :=
  if 0 < closer.count then
    match takeMatch? closer state.openers state.content with
    | none => (closer, state)
    | some (opener, inner) =>
        let used := min closer.count opener.count
        let left := opener.start + opener.count
        let wrapped := wrap used left closer.start inner.content
        let next : Emphasis :=
          if used < opener.count then
            ⟨{ opener with count := opener.count - used } :: inner.openers, wrapped⟩
          else ⟨inner.openers, wrapped ++ opener.before⟩
        let remaining : Closer :=
          { closer with count := closer.count - used, start := closer.start + used }
        if 0 < used then closeWith remaining next else (closer, state)
  else (closer, state)
termination_by closer.count
decreasing_by show closer.count - used < closer.count; omega

def step (state : Emphasis) (part : Inline) : Emphasis :=
  match part with
  | .marks mark count canOpen canClose start =>
      let both := canOpen && canClose
      let run : Closer := ⟨mark, count, count, both, start⟩
      let (rest, state) := if canClose then closeWith run state else (run, state)
      if rest.count = 0 then state
      else if canOpen then
        ⟨⟨mark, rest.count, count, both, rest.start, state.content⟩ :: state.openers, []⟩
      else { state with content := .text rest.start (rest.start + rest.count) :: state.content }
  | part => { state with content := part :: state.content }

def finish (state : Emphasis) : InlinesRev :=
  state.openers.foldl (fun content opener => flatten opener content) state.content

end Emphasis

def hasMarks (parts : List Inline) : Bool :=
  parts.any fun
    | .marks _ _ _ _ _ => true
    | _ => false

def settleLastBreak (content : InlinesRev) : InlinesRev :=
  match content with
  | .hardBreak true start stop :: rest => .literal "\\" start stop :: rest
  | content => content

def resolveEmphasis (parts : List Inline) : List Inline :=
  if hasMarks parts then
    (settleLastBreak (parts.foldl Emphasis.step ⟨[], []⟩).finish).reverse
  else parts

end Proofread.Markdown
