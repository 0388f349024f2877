import Proofread.Markdown.Cursor
import Proofread.Markdown.BlockStart

set_option autoImplicit false

namespace Proofread.Markdown

inductive Container where
  | blockquote
  /-- A list is tight until a blank line is seen between two of its blocks. -/
  | list (tight : Bool) (marker : Char)
  | item (indent : Nat)
deriving DecidableEq, Repr

def Container.continue? (cs : Chars) (cursor : Cursor) : Container → Option Cursor
  | .blockquote => (cursor.skipSpaces cs 3).1.quoteMarker? cs
  | .list _ _ => some cursor
  | .item indent =>
      let (next, missing) := cursor.skipSpaces cs indent
      if missing == 0 || next.isAtLineEnd cs then some next else none

def matchContainers (cs : Chars) : List Container → Cursor → Nat × Cursor
  | [], cursor => (0, cursor)
  | container :: rest, cursor =>
      match container.continue? cs cursor with
      | none => (0, cursor)
      | some next =>
          let (count, last) := matchContainers cs rest next
          (count + 1, last)

def enterLine (cs : Chars) (containers : List Container) (i : Nat) : Bool × Cursor :=
  let (count, cursor) := matchContainers cs containers (.ofPos i)
  (count == containers.length, cursor)

def skipContainers (cs : Chars) (containers : List Container) (i : Nat) : Nat :=
  (matchContainers cs containers (.ofPos i)).2.pos

def listMarker? (cs : Chars) (cursor : Cursor) (indent : Nat) : Option (ListMarker × Cursor) :=
  match cs[cursor.pos]? with
  | none => none
  | some c =>
      if isBulletMarker c then
        if (thematicBreak? cs cursor.pos).isSome then none
        else
          (({ cursor with pos := cursor.pos + 1 }).afterMarker? cs).map fun (next : Cursor) =>
            next.finishMarker cs c (indent + 2)
      else if c.isDigit then
        let stop := cs.skipWhile Char.isDigit cursor.pos
        let digits := stop - cursor.pos
        match cs[stop]? with
        | none => none
        | some d =>
            if digits ≤ 9 && isOrderedMarker d then
              (({ cursor with pos := stop + 1 }).afterMarker? cs).map fun (next : Cursor) =>
                next.finishMarker cs d (indent + digits + 2)
            else none
      else none

end Proofread.Markdown
