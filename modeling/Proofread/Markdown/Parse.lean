import Proofread.Markdown.BlockTree
import Proofread.Markdown.Bracket
import Proofread.Markdown.Tree

set_option autoImplicit false

namespace Proofread.Markdown

structure Source where
  chars : Chars
  definitions : List Definition

namespace Source

def slice (source : Source) (start stop : Nat) : String :=
  source.chars.sliceString start stop

def pieceEvent (source : Source) (html : Bool) : Piece → Event
  | .source start stop =>
      let value := source.slice start stop
      ⟨if html then .html value else .text value, start, stop⟩
  | .spaces count place => ⟨.text (String.ofList (List.replicate count ' ')), place, place⟩

mutual
def inlineEvents (source : Source) : Inline → List Event
  | .text start stop => [⟨.text (source.slice start stop), start, stop⟩]
  | .literal value start stop => [⟨.text value, start, stop⟩]
  | .code value start stop => [⟨.code value, start, stop⟩]
  | .html value start stop => [⟨.inlineHtml value, start, stop⟩]
  | .softBreak start stop => [⟨.softBreak, start, stop⟩]
  | .hardBreak _ start stop => [⟨.hardBreak, start, stop⟩]
  | .marks _ count _ _ start => [⟨.text (source.slice start (start + count)), start, start + count⟩]
  | .emphasis strong start stop content =>
      ⟨.enter (if strong then .strong else .emphasis), start, stop⟩ ::
        inlineListEvents source content ++ [⟨.leave, start, stop⟩]
  | .link image url start stop content =>
      ⟨.enter (if image then .image url else .link url), start, stop⟩ ::
        inlineListEvents source content ++ [⟨.leave, start, stop⟩]
def inlineListEvents (source : Source) : List Inline → List Event
  | [] => []
  | part :: rest => inlineEvents source part ++ inlineListEvents source rest
end

def contentEvents (source : Source) (containers : List Container) (stop : Nat)
    (tokens : List Token) : List Event :=
  let chars := source.chars.extract 0 stop
  source.inlineListEvents (inlines ⟨chars, containers, source.definitions⟩ tokens)

/-- The events of a block in the given containers. A tight paragraph shows its content alone. -/
def leafEvents (source : Source) (containers : List Container) (start stop : Nat) :
    Leaf → List Event
  | .paragraph tight tokens =>
      let content := source.contentEvents containers stop tokens
      if tight then content
      else ⟨.enter .paragraph, start, stop⟩ :: content ++ [⟨.leave, start, stop⟩]
  | .heading level tokens =>
      ⟨.enter (.heading level), start, stop⟩ ::
        source.contentEvents containers stop tokens ++ [⟨.leave, start, stop⟩]
  | .thematicBreak => [⟨.rule, start, stop⟩]
  | .indentedCode pieces =>
      ⟨.enter .indentedCode, start, stop⟩ :: pieces.map (source.pieceEvent false) ++
        [⟨.leave, start, stop⟩]
  | .fencedCode info pieces =>
      ⟨.enter (.fencedCode info), start, stop⟩ :: pieces.map (source.pieceEvent false) ++
        [⟨.leave, start, stop⟩]
  | .html pieces =>
      ⟨.enter .htmlBlock, start, stop⟩ :: pieces.map (source.pieceEvent true) ++
        [⟨.leave, start, stop⟩]

def constructOf : Container → Construct
  | .blockquote => .blockquote
  | .list _ marker => .list (isOrderedMarker marker)
  | .item _ => .listItem

mutual
def blockEvents (source : Source) (containers : List Container) : Block → List Event
  | .leaf content start stop => source.leafEvents containers start stop content
  | .container kind start stop blocks =>
      ⟨.enter (constructOf kind), start, stop⟩ ::
        blockListEvents source (containers ++ [kind]) blocks ++ [⟨.leave, start, stop⟩]
def blockListEvents (source : Source) (containers : List Container) : List Block → List Event
  | [] => []
  | block :: rest => blockEvents source containers block ++ blockListEvents source containers rest
end

end Source

def byteOffsets (cs : List Char) : Array Nat :=
  (cs.foldl (fun (offsets, offset) c =>
    let next := offset + c.utf8Size
    (offsets.push next, next)) (#[0], 0)).1

def events (text : List Char) : List Event :=
  let chars := text.toArray
  let tree := BlockTree.ofChars chars
  let source : Source := ⟨chars, tree.definitions⟩
  let offsets := byteOffsets text
  let size := Text.byteLength text
  let offset (i : Nat) := offsets[i]?.getD size
  (source.blockListEvents [] tree.blocks).map fun event =>
    { event with start := offset event.start, stop := offset event.stop }

def parse (text : String) : Node :=
  treeOfEvents text.toList (events text.toList)

end Proofread.Markdown
