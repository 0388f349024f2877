import Proofread.Markdown.Tree

/-!
Balanced streams of events. A passage is a stretch of a stream that leaves all it enters: an event by
itself, a code or HTML block with the text and HTML in it, or another construct around more passages.
A stream is balanced if it is the events of some passages in a row.
-/

set_option autoImplicit false

namespace Proofread.Markdown

def Construct.isLiteral : Construct → Bool
  | .fencedCode _ | .indentedCode | .htmlBlock => true
  | _ => false

namespace EventBody

def entered? : EventBody → Option Construct
  | .enter construct => some construct
  | _ => none

def leaf? : EventBody → Option NodeKind
  | .text value => some (.text value)
  | .softBreak | .hardBreak => some (.text "\n")
  | .code value => some (.inlineCode value)
  | .html value | .inlineHtml value => some (.html (Text.trimEndString value))
  | .rule => some .thematicBreak
  | .enter _ | .leave => none

def written? : EventBody → Option String
  | .text value | .html value | .inlineHtml value => some value
  | _ => none

end EventBody

inductive Passage where
  | single (event : Event) (kind : NodeKind) (stands : event.body.leaf? = some kind)
  | literal (first last : Event) (construct : Construct) (pieces : List Event)
      (enters : first.body = .enter construct) (keeps : construct.isLiteral = true)
      (written : ∀ piece ∈ pieces, piece.body.written?.isSome = true)
      (leaves : last.body = .leave)
  | around (first last : Event) (construct : Construct) (content : List Passage)
      (enters : first.body = .enter construct) (passes : construct.isLiteral = false)
      (leaves : last.body = .leave)

namespace Passage

mutual
def events : Passage → List Event
  | .single event _ _ => [event]
  | .literal first last _ pieces _ _ _ _ => first :: (pieces ++ [last])
  | .around first last _ content _ _ _ => first :: (eventsOf content ++ [last])
def eventsOf : List Passage → List Event
  | [] => []
  | p :: rest => p.events ++ eventsOf rest
end

theorem events_append (a b : List Passage) : eventsOf (a ++ b) = eventsOf a ++ eventsOf b := by
  induction a with
  | nil => rfl
  | cons p rest ih => rw [List.cons_append, eventsOf, eventsOf, ih, List.append_assoc]

end Passage

def Balanced (stream : List Event) : Prop :=
  ∃ passages, Passage.eventsOf passages = stream

end Proofread.Markdown
