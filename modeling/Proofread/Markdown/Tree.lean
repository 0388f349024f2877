import Proofread.Document.LineIndex
import Proofread.Document.Node
import Proofread.Markdown.Event

set_option autoImplicit false

namespace Proofread.Markdown

/-- The node kind of a construct. Blocks with a literal get it when they are left. -/
def Construct.nodeKind : Construct → NodeKind
  | .paragraph => .paragraph
  | .heading level => .heading level.depth
  | .blockquote => .blockquote
  | .fencedCode info => .code (Text.firstWord? info) ""
  | .indentedCode => .code none ""
  | .htmlBlock => .html ""
  | .list ordered => .list ordered
  | .listItem => .listItem
  | .emphasis => .emphasis
  | .strong => .strong
  | .link url => .link url
  | .image url => .image url

structure Frame where
  kind : NodeKind
  start : Nat
  stop : Nat
  children : List Node
  literal : String

def dropFinalNewline (s : String) : String :=
  match s.toList.reverse with
  | '\n' :: rest => String.ofList rest.reverse
  | _ => s

namespace Frame

def opened (kind : NodeKind) (start stop : Nat) : Frame :=
  ⟨kind, start, stop, [], ""⟩

def collectsLiteral (frame : Frame) : Bool :=
  match frame.kind with
  | .code _ _ | .html _ => true
  | _ => false

def push (frame : Frame) (node : Node) : Frame :=
  { frame with children := node :: frame.children }

def pushLeaf (frame : Frame) (kind : NodeKind) (span : Span) : Frame :=
  frame.push (Node.leaf kind (some span))

/-- Text that starts where the text node before it ends becomes part of that node. -/
def pushText (frame : Frame) (value : String) (span : Span) : Frame :=
  match frame.children with
  | ⟨.text previous, some place, below⟩ :: rest =>
      if place.stop.offset = span.start.offset then
        { frame with
          children := ⟨.text (previous ++ value), some ⟨place.start, span.stop⟩, below⟩ :: rest }
      else frame.pushLeaf (.text value) span
  | _ => frame.pushLeaf (.text value) span

def appendLiteral (frame : Frame) (value : String) : Frame :=
  { frame with literal := frame.literal ++ value }

def close (frame : Frame) (index : LineIndex) : Node :=
  let kind := match frame.kind with
    | .code lang _ => .code lang (dropFinalNewline frame.literal)
    | .html _ => .html (Text.trimEndString frame.literal)
    | kind => kind
  ⟨kind, some (index.span frame.start frame.stop), frame.children.reverse⟩

end Frame

structure OpenFrames where
  current : Frame
  outer : List Frame

namespace OpenFrames

def step (index : LineIndex) (frames : OpenFrames) (event : Event) : OpenFrames :=
  let span := index.span event.start event.stop
  let current := frames.current
  match event.body with
  | .enter construct =>
      ⟨.opened construct.nodeKind event.start event.stop, current :: frames.outer⟩
  | .leave =>
      match frames.outer with
      | [] => frames
      | parent :: outer => ⟨parent.push (current.close index), outer⟩
  | .text value =>
      if current.collectsLiteral then { frames with current := current.appendLiteral value }
      else { frames with current := current.pushText value span }
  | .html value | .inlineHtml value =>
      if current.collectsLiteral then { frames with current := current.appendLiteral value }
      else { frames with current := current.pushLeaf (.html (Text.trimEndString value)) span }
  | .softBreak | .hardBreak => { frames with current := current.pushText "\n" span }
  | .code value => { frames with current := current.pushLeaf (.inlineCode value) span }
  | .rule => { frames with current := current.pushLeaf .thematicBreak span }

def outermost (frames : OpenFrames) : Frame :=
  frames.outer.getLast?.getD frames.current

end OpenFrames

def treeOfEvents (text : List Char) (events : List Event) : Node :=
  let index := LineIndex.ofText text
  let start : OpenFrames := ⟨.opened .root 0 index.size, []⟩
  let frames := events.foldl (OpenFrames.step index) start
  ⟨.root, some ⟨index.point 0, index.point index.size⟩, frames.outermost.children.reverse⟩

end Proofread.Markdown
