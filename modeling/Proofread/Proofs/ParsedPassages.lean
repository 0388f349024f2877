import Proofread.Markdown.Parse
import Proofread.Proofs.Passages

set_option autoImplicit false

namespace Proofread.Markdown

theorem balanced_nil : Balanced [] :=
  ⟨[], rfl⟩

theorem balanced_append (a b : List Event) (first : Balanced a) (second : Balanced b) :
    Balanced (a ++ b) := by
  obtain ⟨ps, rfl⟩ := first
  obtain ⟨qs, rfl⟩ := second
  exact ⟨ps ++ qs, Passage.events_append ps qs⟩

theorem balanced_single (body : EventBody) (start stop : Nat) (kind : NodeKind)
    (stands : body.leaf? = some kind) : Balanced [⟨body, start, stop⟩] :=
  ⟨[.single ⟨body, start, stop⟩ kind stands], rfl⟩

theorem balanced_literal (construct : Construct) (keeps : construct.isLiteral = true)
    (start stop : Nat) (pieces : List Event)
    (written : ∀ piece ∈ pieces, piece.body.written?.isSome = true) :
    Balanced (⟨.enter construct, start, stop⟩ :: pieces ++ [⟨.leave, start, stop⟩]) :=
  ⟨[.literal ⟨.enter construct, start, stop⟩ ⟨.leave, start, stop⟩ construct pieces rfl keeps
      written rfl], List.append_nil _⟩

theorem balanced_around (construct : Construct) (passes : construct.isLiteral = false)
    (start stop : Nat) (inside : List Event) (balanced : Balanced inside) :
    Balanced (⟨.enter construct, start, stop⟩ :: inside ++ [⟨.leave, start, stop⟩]) := by
  obtain ⟨content, rfl⟩ := balanced
  exact ⟨[.around ⟨.enter construct, start, stop⟩ ⟨.leave, start, stop⟩ construct content rfl passes
    rfl], List.append_nil _⟩

namespace Source

variable (source : Source)

theorem piece_written (html : Bool) (piece : Piece) :
    (source.pieceEvent html piece).body.written?.isSome = true := by
  cases piece with
  | source start stop => cases html <;> rfl
  | spaces count place => rfl

theorem pieces_written (html : Bool) (pieces : List Piece) :
    ∀ event ∈ pieces.map (source.pieceEvent html), event.body.written?.isSome = true := by
  intro event listed
  obtain ⟨piece, _, rfl⟩ := List.mem_map.mp listed
  exact source.piece_written html piece

mutual
theorem inline_balanced (part : Inline) : Balanced (source.inlineEvents part) := by
  cases part with
  | text start stop => exact balanced_single (.text _) start stop _ rfl
  | literal value start stop => exact balanced_single (.text value) start stop _ rfl
  | code value start stop => exact balanced_single (.code value) start stop _ rfl
  | html value start stop => exact balanced_single (.inlineHtml value) start stop _ rfl
  | softBreak start stop => exact balanced_single .softBreak start stop _ rfl
  | hardBreak backslash start stop => exact balanced_single .hardBreak start stop _ rfl
  | marks mark count canOpen canClose start => exact balanced_single (.text _) start _ _ rfl
  | emphasis strong start stop content =>
      refine balanced_around _ ?_ start stop _ (inline_list_balanced content)
      cases strong <;> rfl
  | link image url start stop content =>
      refine balanced_around _ ?_ start stop _ (inline_list_balanced content)
      cases image <;> rfl
theorem inline_list_balanced (parts : List Inline) : Balanced (source.inlineListEvents parts) := by
  cases parts with
  | nil => exact balanced_nil
  | cons part rest =>
      exact balanced_append _ _ (inline_balanced part) (inline_list_balanced rest)
end

theorem leaf_balanced (containers : List Container) (start stop : Nat) (leaf : Leaf) :
    Balanced (source.leafEvents containers start stop leaf) := by
  have content (tokens : List Token) : Balanced (source.contentEvents containers stop tokens) :=
    source.inline_list_balanced _
  cases leaf with
  | paragraph tight tokens =>
      cases tight with
      | true => exact content tokens
      | false => exact balanced_around .paragraph rfl start stop _ (content tokens)
  | heading depth tokens => exact balanced_around (.heading _) rfl start stop _ (content tokens)
  | thematicBreak => exact balanced_single .rule start stop _ rfl
  | indentedCode pieces =>
      exact balanced_literal .indentedCode rfl start stop _ (source.pieces_written false pieces)
  | fencedCode info pieces =>
      exact balanced_literal (.fencedCode info) rfl start stop _ (source.pieces_written false pieces)
  | html pieces =>
      exact balanced_literal .htmlBlock rfl start stop _ (source.pieces_written true pieces)

mutual
theorem block_balanced (containers : List Container) (block : Block) :
    Balanced (source.blockEvents containers block) := by
  cases block with
  | leaf content start stop => exact source.leaf_balanced containers start stop content
  | container kind start stop blocks =>
      refine balanced_around _ ?_ start stop _ (block_list_balanced (containers ++ [kind]) blocks)
      cases kind <;> rfl
theorem block_list_balanced (containers : List Container) (blocks : List Block) :
    Balanced (source.blockListEvents containers blocks) := by
  cases blocks with
  | nil => exact balanced_nil
  | cons block rest =>
      exact balanced_append _ _ (block_balanced containers block)
        (block_list_balanced containers rest)
end

end Source

namespace Passage

section

variable (move : Event → Event) (keeps : ∀ event, (move event).body = event.body)

include keeps in
theorem moved_written (pieces : List Event)
    (written : ∀ piece ∈ pieces, piece.body.written?.isSome = true) :
    ∀ piece ∈ pieces.map move, piece.body.written?.isSome = true := by
  intro _ listed
  obtain ⟨piece, own, rfl⟩ := List.mem_map.mp listed
  rw [keeps piece]
  exact written piece own

mutual
def moved : Passage → Passage
  | .single event kind stands => .single (move event) kind ((congrArg _ (keeps event)).trans stands)
  | .literal first last construct pieces enters keepsAll written leaves =>
      .literal (move first) (move last) construct (pieces.map move) ((keeps first).trans enters)
        keepsAll (moved_written move keeps pieces written) ((keeps last).trans leaves)
  | .around first last construct content enters passes leaves =>
      .around (move first) (move last) construct (movedOf content) ((keeps first).trans enters)
        passes ((keeps last).trans leaves)
def movedOf : List Passage → List Passage
  | [] => []
  | p :: rest => p.moved :: movedOf rest
end

mutual
theorem moved_events (p : Passage) : (p.moved move keeps).events = p.events.map move := by
  cases p with
  | single event kind stands => rfl
  | literal first last construct pieces enters keepsAll written leaves =>
      simp [moved, events]
  | around first last construct content enters passes leaves =>
      simp [moved, events, moved_of_events content]
theorem moved_of_events (ps : List Passage) :
    eventsOf (movedOf move keeps ps) = (eventsOf ps).map move := by
  cases ps with
  | nil => rfl
  | cons p rest =>
      rw [movedOf, eventsOf, eventsOf, moved_events p, moved_of_events rest, List.map_append]
end

end

end Passage

theorem balanced_moved (move : Event → Event) (keeps : ∀ event, (move event).body = event.body)
    (stream : List Event) (balanced : Balanced stream) : Balanced (stream.map move) := by
  obtain ⟨ps, rfl⟩ := balanced
  exact ⟨Passage.movedOf move keeps ps, Passage.moved_of_events move keeps ps⟩

theorem events_balanced (text : List Char) : Balanced (events text) := by
  refine balanced_moved _ ?_ _ (Source.block_list_balanced _ [] _)
  intro event
  rfl

end Proofread.Markdown
