import Proofread.Proofs.Passages

set_option autoImplicit false

namespace Proofread

namespace Node

-- Text that ends where the text behind it starts.
def meets : Node → Node → Bool
  | ⟨.text _, some s, _⟩, ⟨.text _, some t, _⟩ => s.stop.offset = t.start.offset
  | _, _ => false

def join : Node → Node → Node
  | ⟨.text value, some s, below⟩, ⟨.text more, some t, _⟩ =>
      ⟨.text (value ++ more), some ⟨s.start, t.stop⟩, below⟩
  | n, _ => n

def putBehind : List Node → Node → List Node
  | [], n => [n]
  | last :: others, n => if last.meets n then last.join n :: others else n :: last :: others

def joined (nodes : List Node) : List Node :=
  (nodes.foldl putBehind []).reverse

theorem meets_texts (a b : Node) (meet : a.meets b = true) :
    ∃ v s below w t more, a = ⟨.text v, some s, below⟩ ∧ b = ⟨.text w, some t, more⟩ ∧
      s.stop.offset = t.start.offset := by
  unfold meets at meet
  split at meet
  · rename_i v s below w t more
    exact ⟨v, s, below, w, t, more, rfl, rfl, of_decide_eq_true meet⟩
  · cases meet

theorem put_other (nodes : List Node) (n : Node) (other : ∀ value, n.kind ≠ .text value) :
    putBehind nodes n = n :: nodes := by
  cases nodes with
  | nil => rfl
  | cons last others =>
      have apart : last.meets n = false := by
        rw [Bool.eq_false_iff]
        intro meet
        obtain ⟨_, _, _, w, _, _, _, rfl, _⟩ := meets_texts last n meet
        exact other w rfl
      rw [putBehind, apart]
      rfl

-- What can be read off the nodes one by one, and off joined texts as off the texts, is not changed
-- by joining.
theorem put_reads {α : Type} (read : Node → List α) (nodes : List Node) (n : Node)
    (additive : ∀ a : Node, a.meets n = true → read (a.join n) = read a ++ read n) :
    (putBehind nodes n).reverse.flatMap read = nodes.reverse.flatMap read ++ read n := by
  cases nodes with
  | nil => simp [putBehind]
  | cons last others =>
      rw [putBehind]
      cases meet : last.meets n with
      | false => simp
      | true => simp [additive last meet]

theorem joined_reads {α : Type} (read : Node → List α) (nodes : List Node)
    (additive : ∀ n ∈ nodes, ∀ a : Node, a.meets n = true → read (a.join n) = read a ++ read n) :
    (joined nodes).flatMap read = nodes.flatMap read := by
  have run : ∀ behind : List Node, (nodes.foldl putBehind behind).reverse.flatMap read =
      behind.reverse.flatMap read ++ nodes.flatMap read := by
    induction nodes with
    | nil => simp
    | cons n rest ih =>
        intro behind
        obtain ⟨first, others⟩ := List.forall_mem_cons.mp additive
        rw [List.foldl_cons, ih others, put_reads read behind n first, List.flatMap_cons,
          List.append_assoc]
  exact run []

end Node

namespace Markdown

open Node (putBehind joined)

def literalOf : List Event → String
  | [] => ""
  | piece :: rest => piece.body.written?.getD "" ++ literalOf rest

def Construct.filled (construct : Construct) (literal : String) : NodeKind :=
  match construct.nodeKind with
  | .code lang _ => .code lang (dropFinalNewline literal)
  | .html _ => .html (Text.trimEndString literal)
  | kind => kind

namespace Passage

section

variable (index : LineIndex)

mutual
def node : Passage → Node
  | .single event kind _ => .leaf kind (some (index.span event.start event.stop))
  | .literal first _ construct pieces _ _ _ _ =>
      .leaf (construct.filled (literalOf pieces)) (some (index.span first.start first.stop))
  | .around first _ construct content _ _ _ =>
      ⟨construct.nodeKind, some (index.span first.start first.stop), joined (nodesOf content)⟩
def nodesOf : List Passage → List Node
  | [] => []
  | p :: rest => p.node :: nodesOf rest
end

end

end Passage

section

variable (index : LineIndex)

theorem literal_kind (construct : Construct) (start stop : Nat) :
    (Frame.opened construct.nodeKind start stop).collectsLiteral = construct.isLiteral := by
  cases construct <;> rfl

theorem filled_other (construct : Construct) (literal value : String) :
    construct.filled literal ≠ .text value := by
  cases construct <;> exact NodeKind.noConfusion

def Frame.put (frame : Frame) (n : Node) : Frame :=
  { frame with children := putBehind frame.children n }

theorem push_text_puts (frame : Frame) (value : String) (span : Span) :
    frame.pushText value span = frame.put (.leaf (.text value) (some span)) := by
  obtain ⟨kind, start, stop, children, literal⟩ := frame
  cases children with
  | nil => rfl
  | cons last others =>
      obtain ⟨lastKind, place, below⟩ := last
      cases place with
      | none => cases lastKind <;> rfl
      | some place =>
          cases lastKind with
          | text previous =>
              by_cases meet : place.stop.offset = span.start.offset
              · simp [Frame.pushText, Frame.put, putBehind, Node.meets, Node.join, Node.leaf, meet]
              · simp [Frame.pushText, Frame.pushLeaf, Frame.push, Frame.put, putBehind, Node.meets,
                  Node.leaf, meet]
          | _ => rfl

theorem push_other_puts (frame : Frame) (n : Node) (other : ∀ value, n.kind ≠ .text value) :
    frame.push n = frame.put n := by
  rw [Frame.push, Frame.put, Node.put_other frame.children n other]

theorem step_single (current : Frame) (outer : List Frame) (event : Event) (kind : NodeKind)
    (stands : event.body.leaf? = some kind) (plain : current.collectsLiteral = false) :
    OpenFrames.step index ⟨current, outer⟩ event =
      ⟨current.put (.leaf kind (some (index.span event.start event.stop))), outer⟩ := by
  obtain ⟨body, start, stop⟩ := event
  have leaf : ∀ single : NodeKind, (∀ value, single ≠ .text value) →
      current.pushLeaf single (index.span start stop) =
        current.put (.leaf single (some (index.span start stop))) :=
    fun single distinct => push_other_puts current _ distinct
  cases body with
  | enter construct => cases stands
  | leave => cases stands
  | text value =>
      cases stands
      simp only [OpenFrames.step, plain, Bool.false_eq_true, if_false, push_text_puts]
  | softBreak =>
      cases stands
      simp only [OpenFrames.step, push_text_puts]
  | hardBreak =>
      cases stands
      simp only [OpenFrames.step, push_text_puts]
  | code value =>
      cases stands
      simp only [OpenFrames.step, leaf (.inlineCode value) fun _ same => by cases same]
  | html value =>
      cases stands
      simp only [OpenFrames.step, plain, Bool.false_eq_true, if_false,
        leaf (.html (Text.trimEndString value)) fun _ same => by cases same]
  | inlineHtml value =>
      cases stands
      simp only [OpenFrames.step, plain, Bool.false_eq_true, if_false,
        leaf (.html (Text.trimEndString value)) fun _ same => by cases same]
  | rule =>
      cases stands
      simp only [OpenFrames.step, leaf .thematicBreak fun _ same => by cases same]

theorem step_written (current : Frame) (outer : List Frame) (event : Event)
    (written : event.body.written?.isSome = true) (keeps : current.collectsLiteral = true) :
    OpenFrames.step index ⟨current, outer⟩ event =
      ⟨current.appendLiteral (event.body.written?.getD ""), outer⟩ := by
  obtain ⟨body, start, stop⟩ := event
  cases body with
  | text value => simp only [OpenFrames.step, keeps, if_true]; rfl
  | html value => simp only [OpenFrames.step, keeps, if_true]; rfl
  | inlineHtml value => simp only [OpenFrames.step, keeps, if_true]; rfl
  | enter construct => cases written
  | leave => cases written
  | softBreak => cases written
  | hardBreak => cases written
  | code value => cases written
  | rule => cases written

theorem run_written (pieces : List Event)
    (written : ∀ piece ∈ pieces, piece.body.written?.isSome = true) (current : Frame)
    (keeps : current.collectsLiteral = true) (outer : List Frame) :
    pieces.foldl (OpenFrames.step index) ⟨current, outer⟩ =
      ⟨current.appendLiteral (literalOf pieces), outer⟩ := by
  induction pieces generalizing current with
  | nil => simp [literalOf, Frame.appendLiteral]
  | cons piece rest ih =>
      obtain ⟨first, others⟩ := List.forall_mem_cons.mp written
      have later := ih others (current.appendLiteral (piece.body.written?.getD "")) keeps
      rw [List.foldl_cons, step_written index current outer piece first keeps, later]
      simp only [literalOf, Frame.appendLiteral, String.append_assoc]

theorem step_enter (frames : OpenFrames) (event : Event) (construct : Construct)
    (enters : event.body = .enter construct) :
    OpenFrames.step index frames event =
      ⟨.opened construct.nodeKind event.start event.stop, frames.current :: frames.outer⟩ := by
  simp only [OpenFrames.step, enters]

theorem step_leave (current parent : Frame) (outer : List Frame) (event : Event)
    (leaves : event.body = .leave) :
    OpenFrames.step index ⟨current, parent :: outer⟩ event =
      ⟨parent.push (current.close index), outer⟩ := by
  simp only [OpenFrames.step, leaves]

theorem close_literal (construct : Construct) (keeps : construct.isLiteral = true)
    (start stop : Nat) (literal : String) :
    ((Frame.opened construct.nodeKind start stop).appendLiteral literal).close index =
      .leaf (construct.filled literal) (some (index.span start stop)) := by
  have only : "" ++ literal = literal := String.empty_append
  cases construct with
  | fencedCode info => simp only [Frame.close, Frame.opened, Frame.appendLiteral, only]; rfl
  | indentedCode => simp only [Frame.close, Frame.opened, Frame.appendLiteral, only]; rfl
  | htmlBlock => simp only [Frame.close, Frame.opened, Frame.appendLiteral, only]; rfl
  | _ => cases keeps

theorem close_around (construct : Construct) (passes : construct.isLiteral = false)
    (start stop : Nat) (nodes : List Node) :
    ({ Frame.opened construct.nodeKind start stop with
        children := nodes.foldl putBehind [] } : Frame).close index =
      ⟨construct.nodeKind, some (index.span start stop), joined nodes⟩ := by
  cases construct with
  | fencedCode info => cases passes
  | indentedCode => cases passes
  | htmlBlock => cases passes
  | _ => rfl

theorem around_other (construct : Construct) (value : String) :
    construct.nodeKind ≠ .text value := by
  cases construct <;> exact NodeKind.noConfusion

mutual
theorem run_passage (p : Passage) (current : Frame) (outer : List Frame)
    (plain : current.collectsLiteral = false) :
    p.events.foldl (OpenFrames.step index) ⟨current, outer⟩ =
      ⟨current.put (p.node index), outer⟩ := by
  cases p with
  | single event kind stands => exact step_single index current outer event kind stands plain
  | literal first last construct pieces enters keeps written leaves =>
      have inside := run_written index pieces written
        (.opened construct.nodeKind first.start first.stop)
        ((literal_kind construct _ _).trans keeps) (current :: outer)
      have left := push_other_puts current
        (.leaf (construct.filled (literalOf pieces)) (some (index.span first.start first.stop)))
        (filled_other construct (literalOf pieces))
      rw [Passage.events, List.foldl_cons, step_enter index _ first construct enters,
        List.foldl_append, inside, List.foldl_cons, List.foldl_nil,
        step_leave index _ _ _ last leaves, close_literal index construct keeps, left]
      rfl
  | around first last construct content enters passes leaves =>
      have inside := run_passages content (.opened construct.nodeKind first.start first.stop)
        (current :: outer) ((literal_kind construct _ _).trans passes)
      have closed := close_around index construct passes first.start first.stop
        (Passage.nodesOf index content)
      have left := push_other_puts current
        ⟨construct.nodeKind, some (index.span first.start first.stop),
          joined (Passage.nodesOf index content)⟩ (around_other construct)
      rw [Passage.events, List.foldl_cons, step_enter index _ first construct enters,
        List.foldl_append, inside, List.foldl_cons, List.foldl_nil,
        step_leave index _ _ _ last leaves, Passage.node, ← left, ← closed]
      rfl
theorem run_passages (ps : List Passage) (current : Frame) (outer : List Frame)
    (plain : current.collectsLiteral = false) :
    (Passage.eventsOf ps).foldl (OpenFrames.step index) ⟨current, outer⟩ =
      ⟨{ current with children := (Passage.nodesOf index ps).foldl putBehind current.children },
        outer⟩ := by
  cases ps with
  | nil => rfl
  | cons p rest =>
      rw [Passage.eventsOf, List.foldl_append, run_passage p current outer plain,
        run_passages rest (current.put (p.node index)) outer plain]
      rfl
end

end

theorem tree_of_passages (text : List Char) (ps : List Passage) :
    treeOfEvents text (Passage.eventsOf ps) =
      ⟨.root, some ⟨(LineIndex.ofText text).point 0,
        (LineIndex.ofText text).point (LineIndex.ofText text).size⟩,
        joined (Passage.nodesOf (LineIndex.ofText text) ps)⟩ := by
  have ran := run_passages (LineIndex.ofText text) ps
    (.opened .root 0 (LineIndex.ofText text).size) [] rfl
  simp only [treeOfEvents, ran]
  rfl

end Markdown

end Proofread
