import Mathlib.Data.List.Basic
import Proofread.Proofs.PassageTree
import Proofread.Proofs.ParsedPassages
import Proofread.Proofs.Siblings

set_option autoImplicit false

namespace Proofread

def NodeKind.isText : NodeKind → Bool
  | text _ => true
  | _ => false

def NodeKind.bare : NodeKind → NodeKind
  | code lang _ => code lang ""
  | html _ => html ""
  | kind => kind

-- What reading a tree from left to right passes: text letter by letter, and the other nodes where
-- they begin and where they end.
inductive TreeMark where
  | enter (kind : NodeKind) (span : Option Span)
  | letter (c : Char)
  | leave

namespace TreeMark

def letters (value : String) : List TreeMark :=
  value.toList.map letter

@[simp] theorem letters_append (v w : String) :
    letters (v ++ w) = letters v ++ letters w := by
  rw [letters, String.toList_append, List.map_append]
  rfl

def around (kind : NodeKind) (span : Option Span) (inside : List TreeMark) : List TreeMark :=
  match kind with
  | .text value => letters value
  | kind => enter kind span :: (inside ++ [leave])

end TreeMark

namespace Node

mutual
def marks : Node → List TreeMark
  | ⟨kind, span, children⟩ => TreeMark.around kind span (marksOf children)
def marksOf : List Node → List TreeMark
  | [] => []
  | n :: rest => n.marks ++ marksOf rest
end

@[simp] theorem marks_of_flat (nodes : List Node) : marksOf nodes = nodes.flatMap marks := by
  induction nodes with
  | nil => rfl
  | cons n rest ih => rw [marksOf, ih, List.flatMap_cons]

def forms (n : Node) : List (NodeKind × Option Span) :=
  (n.preorder.filter fun m => !m.kind.isText).map fun m => (m.kind, m.span)

@[simp] theorem forms_node (kind : NodeKind) (span : Option Span) (children : List Node) :
    forms ⟨kind, span, children⟩ =
      (if kind.isText then [] else [(kind, span)]) ++ children.flatMap forms := by
  have below : ((preorderList children).filter fun m => !m.kind.isText).map
      (fun m => (m.kind, m.span)) = children.flatMap forms := by
    rw [preorder_list_flat, List.filter_flatMap, List.map_flatMap]
    rfl
  rw [forms, preorder, ← below]
  cases text : kind.isText <;> simp [text]

theorem forms_headings (n : Node) :
    n.forms.filterMap (fun form => form.1.headingDepth?) = n.preorder.filterMap headingDepth? := by
  have texts_none : ∀ m : Node, (if (!m.kind.isText) = true then m.kind.headingDepth? else none) =
      m.headingDepth? := by
    rintro ⟨kind, span, children⟩
    cases kind <;> rfl
  rw [forms, List.filterMap_map, List.filterMap_filter]
  exact List.filterMap_congr fun m _ => texts_none m

end Node

namespace Markdown

open Node (joined joined_reads)

def EventBody.content : EventBody → String
  | .text value | .code value => value
  | .softBreak | .hardBreak => "\n"
  | .html value | .inlineHtml value => Text.trimEndString value
  | .rule | .enter _ | .leave => ""

def EventBody.announced? : EventBody → Option NodeKind
  | .enter construct => some construct.nodeKind
  | .code value => some (.inlineCode value)
  | .rule => some .thematicBreak
  | _ => none

def Construct.settled (construct : Construct) (literal : String) : String :=
  match construct with
  | .htmlBlock => Text.trimEndString literal
  | _ => dropFinalNewline literal

namespace Passage

section

variable (index : LineIndex)

theorem text_leaf (ps : List Passage) (n : Node) (listed : n ∈ nodesOf index ps) (value : String)
    (text : n.kind = .text value) : n.children = [] := by
  induction ps with
  | nil => cases listed
  | cons p rest ih =>
      rcases List.mem_cons.mp listed with rfl | later
      · cases p with
        | single event kind stands => rfl
        | literal first last construct pieces enters keeps written leaves => rfl
        | around first last construct content enters passes leaves =>
            exact absurd text (around_other construct value)
      · exact ih later

-- What is read off the nodes of passages is read off the tree, if it is read off texts letter by
-- letter.
theorem joined_nodes_read {α : Type} (read : Node → List α)
    (additive : ∀ v w s t place below, read ⟨.text (v ++ w), place, below⟩ =
      read ⟨.text v, some s, below⟩ ++ read ⟨.text w, some t, []⟩) (ps : List Passage) :
    (joined (nodesOf index ps)).flatMap read = (nodesOf index ps).flatMap read := by
  refine joined_reads read _ fun n listed a meet => ?_
  obtain ⟨v, s, below, w, t, more, rfl, rfl, _⟩ := Node.meets_texts a n meet
  have leaf : more = [] := text_leaf index ps _ listed w rfl
  rw [leaf]
  exact additive v w s t _ below

mutual
def marks : Passage → List TreeMark
  | .single event kind _ => TreeMark.around kind (some (index.span event.start event.stop)) []
  | .literal first _ construct pieces _ _ _ _ =>
      TreeMark.around (construct.filled (literalOf pieces))
        (some (index.span first.start first.stop)) []
  | .around first _ construct content _ _ _ =>
      TreeMark.around construct.nodeKind (some (index.span first.start first.stop)) (marksOf content)
def marksOf : List Passage → List TreeMark
  | [] => []
  | p :: rest => p.marks ++ marksOf rest
end

theorem joined_marks (ps : List Passage) :
    Node.marksOf (joined (nodesOf index ps)) = Node.marksOf (nodesOf index ps) := by
  rw [Node.marks_of_flat, Node.marks_of_flat]
  refine joined_nodes_read index Node.marks (fun v w s t place below => ?_) ps
  simp only [Node.marks, TreeMark.around, TreeMark.letters, String.toList_append, List.map_append]

mutual
theorem node_marks (p : Passage) : (p.node index).marks = p.marks index := by
  cases p with
  | single event kind stands => rfl
  | literal first last construct pieces enters keeps written leaves => rfl
  | around first last construct content enters passes leaves =>
      rw [node, Node.marks, joined_marks, nodes_marks content, marks]
theorem nodes_marks (ps : List Passage) :
    Node.marksOf (nodesOf index ps) = marksOf index ps := by
  cases ps with
  | nil => rfl
  | cons p rest => rw [nodesOf, Node.marksOf, marksOf, node_marks p, nodes_marks rest]
end

mutual
def openings : Passage → List (Event × NodeKind)
  | .single event kind _ => if kind.isText then [] else [(event, kind)]
  | .literal first _ construct pieces _ _ _ _ => [(first, construct.filled (literalOf pieces))]
  | .around first _ construct content _ _ _ => (first, construct.nodeKind) :: openingsOf content
def openingsOf : List Passage → List (Event × NodeKind)
  | [] => []
  | p :: rest => p.openings ++ openingsOf rest
end

def formOf (opening : Event × NodeKind) : NodeKind × Option Span :=
  (opening.2, some (index.span opening.1.start opening.1.stop))

-- What an opening keeps of the announcement of its event.
def kept (opening : Event × NodeKind) : Option (Event × NodeKind) :=
  opening.1.body.announced?.map fun _ => (opening.1, opening.2.bare)

def announcement (event : Event) : Option (Event × NodeKind) :=
  event.body.announced?.map fun kind => (event, kind)

theorem single_announces (event : Event) (kind : NodeKind)
    (stands : event.body.leaf? = some kind) :
    (openings (.single event kind stands)).filterMap kept = [event].filterMap announcement := by
  obtain ⟨body, start, stop⟩ := event
  cases body <;> cases stands <;> rfl

theorem written_announce_none (pieces : List Event)
    (written : ∀ piece ∈ pieces, piece.body.written?.isSome = true) :
    pieces.filterMap announcement = [] := by
  rw [List.filterMap_eq_nil_iff]
  intro piece listed
  have own := written piece listed
  rw [announcement]
  cases body : piece.body with
  | text value => rfl
  | html value => rfl
  | inlineHtml value => rfl
  | _ =>
      rw [body] at own
      cases own

theorem entered_kept (first : Event) (construct : Construct) (enters : first.body = .enter construct)
    (kind : NodeKind) (same : kind.bare = construct.nodeKind) :
    kept (first, kind) = some (first, construct.nodeKind) := by
  rw [kept, enters, same]
  rfl

theorem entered_announced (first : Event) (construct : Construct)
    (enters : first.body = .enter construct) :
    announcement first = some (first, construct.nodeKind) := by
  rw [announcement, enters]
  rfl

theorem left_silent (last : Event) (leaves : last.body = .leave) : announcement last = none := by
  rw [announcement, leaves]
  rfl

theorem filled_bare (construct : Construct) (literal : String) :
    (construct.filled literal).bare = construct.nodeKind := by
  cases construct <;> rfl

theorem node_kind_bare (construct : Construct) : construct.nodeKind.bare = construct.nodeKind := by
  cases construct <;> rfl

mutual
theorem passage_announced (p : Passage) :
    p.openings.filterMap kept = p.events.filterMap announcement := by
  cases p with
  | single event kind stands => exact single_announces event kind stands
  | literal first last construct pieces enters keeps written leaves =>
      have entered := entered_kept first construct enters _ (filled_bare construct (literalOf pieces))
      simp [openings, events, entered, entered_announced first construct enters,
        left_silent last leaves, written_announce_none pieces written]
  | around first last construct content enters passes leaves =>
      have entered := entered_kept first construct enters _ (node_kind_bare construct)
      simp [openings, events, entered, entered_announced first construct enters,
        left_silent last leaves, passages_announced content]
theorem passages_announced (ps : List Passage) :
    (openingsOf ps).filterMap kept = (eventsOf ps).filterMap announcement := by
  cases ps with
  | nil => rfl
  | cons p rest =>
      rw [openingsOf, eventsOf, List.filterMap_append, List.filterMap_append, passage_announced p,
        passages_announced rest]
end

mutual
theorem passage_openings_in_order (p : Passage) : (p.openings.map Prod.fst).Sublist p.events := by
  cases p with
  | single event kind stands =>
      rw [openings, events]
      cases kind.isText <;> simp
  | literal first last construct pieces enters keeps written leaves =>
      simp [openings, events]
  | around first last construct content enters passes leaves =>
      have inside := passages_openings_in_order content
      rw [openings, events, List.map_cons]
      exact (inside.trans (List.sublist_append_left _ _)).cons_cons first
theorem passages_openings_in_order (ps : List Passage) :
    ((openingsOf ps).map Prod.fst).Sublist (eventsOf ps) := by
  cases ps with
  | nil => exact List.Sublist.refl []
  | cons p rest =>
      rw [openingsOf, eventsOf, List.map_append]
      exact (passage_openings_in_order p).append (passages_openings_in_order rest)
end

mutual
theorem passage_leaf_openings (p : Passage) (o : Event × NodeKind) (listed : o ∈ p.openings)
    (single : o.1.body.entered? = none) : o.1.body.leaf? = some o.2 := by
  cases p with
  | single event kind stands =>
      rw [openings] at listed
      cases text : kind.isText with
      | true => simp [text] at listed
      | false =>
          have same : o = (event, kind) := by simpa [text] using listed
          rw [same]
          exact stands
  | literal first last construct pieces enters keeps written leaves =>
      have same := List.mem_singleton.mp listed
      rw [same, enters] at single
      cases single
  | around first last construct content enters passes leaves =>
      rcases List.mem_cons.mp listed with same | later
      · rw [same, enters] at single
        cases single
      · exact passages_leaf_openings content o later single
theorem passages_leaf_openings (ps : List Passage) (o : Event × NodeKind)
    (listed : o ∈ openingsOf ps) (single : o.1.body.entered? = none) :
    o.1.body.leaf? = some o.2 := by
  cases ps with
  | nil => cases listed
  | cons p rest =>
      rcases List.mem_append.mp listed with here | later
      · exact passage_leaf_openings p o here single
      · exact passages_leaf_openings rest o later single
end

def headingLevel? (event : Event) : Option UInt8 :=
  event.body.entered?.bind fun construct => construct.nodeKind.headingDepth?

theorem bare_heading (kind : NodeKind) : kind.bare.headingDepth? = kind.headingDepth? := by
  cases kind <;> rfl

theorem leaf_no_heading (body : EventBody) (kind : NodeKind) (stands : body.leaf? = some kind) :
    kind.headingDepth? = none := by
  cases body <;> cases stands <;> rfl

theorem announced_entered (body : EventBody) (silent : body.announced? = none) :
    body.entered? = none := by
  cases body <;> first | rfl | cases silent

theorem heading_announced (event : Event) :
    headingLevel? event = (announcement event).bind fun told => told.2.headingDepth? := by
  rw [headingLevel?, announcement]
  cases event.body <;> rfl

theorem openings_headings (ps : List Passage) :
    (openingsOf ps).filterMap (fun o => o.2.headingDepth?) =
      (eventsOf ps).filterMap headingLevel? := by
  have own : ∀ o ∈ openingsOf ps, o.2.headingDepth? =
      (kept o).bind fun told => told.2.headingDepth? := by
    intro o listed
    rw [kept]
    cases announced : o.1.body.announced? with
    | none =>
        have stands := passages_leaf_openings ps o listed (announced_entered o.1.body announced)
        exact leaf_no_heading o.1.body o.2 stands
    | some kind => exact (bare_heading o.2).symm
  rw [List.filterMap_congr own, funext heading_announced, ← List.filterMap_filterMap,
    ← List.filterMap_filterMap, passages_announced]

theorem joined_forms (ps : List Passage) :
    (joined (nodesOf index ps)).flatMap Node.forms = (nodesOf index ps).flatMap Node.forms := by
  refine joined_nodes_read index Node.forms (fun v w s t place below => ?_) ps
  simp [Node.forms_node, NodeKind.isText]

theorem construct_no_text (construct : Construct) : construct.nodeKind.isText = false := by
  cases construct <;> rfl

theorem filled_no_text (construct : Construct) (literal : String) :
    (construct.filled literal).isText = false := by
  cases construct <;> rfl

mutual
theorem node_forms (p : Passage) : (p.node index).forms = p.openings.map (formOf index) := by
  cases p with
  | single event kind stands =>
      rw [node, Node.leaf, Node.forms_node, openings]
      cases kind.isText <;> rfl
  | literal first last construct pieces enters keeps written leaves =>
      rw [node, Node.leaf, Node.forms_node, filled_no_text]
      rfl
  | around first last construct content enters passes leaves =>
      rw [node, Node.forms_node, construct_no_text, joined_forms, nodes_forms content]
      rfl
theorem nodes_forms (ps : List Passage) :
    (nodesOf index ps).flatMap Node.forms = (openingsOf ps).map (formOf index) := by
  cases ps with
  | nil => rfl
  | cons p rest =>
      rw [nodesOf, List.flatMap_cons, node_forms p, nodes_forms rest, openingsOf, List.map_append]
end

mutual
def content : Passage → String
  | .single event _ _ => event.body.content
  | .literal _ _ construct pieces _ _ _ _ => construct.settled (literalOf pieces)
  | .around _ _ _ inside _ _ _ => contentOf inside
def contentOf : List Passage → String
  | [] => ""
  | p :: rest => p.content ++ contentOf rest
end

theorem joined_text (ps : List Passage) :
    Node.textOfList (joined (nodesOf index ps)) = Node.textOfList (nodesOf index ps) := by
  rw [← String.toList_inj, Node.text_of_list_flat, Node.text_of_list_flat]
  refine joined_nodes_read index (fun n => n.text.toList) (fun v w s t place below => ?_) ps
  exact String.toList_append

theorem single_text (body : EventBody) (kind : NodeKind) (stands : body.leaf? = some kind)
    (span : Option Span) : (Node.leaf kind span).text = body.content := by
  cases body <;> cases stands <;> rfl

mutual
theorem node_text (p : Passage) : (p.node index).text = p.content := by
  cases p with
  | single event kind stands => exact single_text event.body kind stands _
  | literal first last construct pieces enters keeps written leaves =>
      rw [node, content]
      cases construct <;> first | rfl | cases keeps
  | around first last construct inside enters passes leaves =>
      have whole : ∀ span children,
          Node.text ⟨construct.nodeKind, span, children⟩ = Node.textOfList children := by
        intro span children
        cases construct <;> first | rfl | cases passes
      rw [node, whole, joined_text, nodes_text inside, content]
theorem nodes_text (ps : List Passage) :
    Node.textOfList (nodesOf index ps) = contentOf ps := by
  cases ps with
  | nil => rfl
  | cons p rest => rw [nodesOf, Node.textOfList, node_text p, nodes_text rest, contentOf]
end

end

end Passage

open Passage (openingsOf eventsOf)

theorem tree_forms (text : List Char) (ps : List Passage) :
    (treeOfEvents text (eventsOf ps)).forms =
      (.root, (treeOfEvents text (eventsOf ps)).span) ::
        (openingsOf ps).map (Passage.formOf (LineIndex.ofText text)) := by
  rw [tree_of_passages, Node.forms_node, Passage.joined_forms, Passage.nodes_forms]
  rfl

theorem tree_headings (text : List Char) (ps : List Passage) :
    (treeOfEvents text (eventsOf ps)).preorder.filterMap Node.headingDepth? =
      (eventsOf ps).filterMap Passage.headingLevel? := by
  rw [← Node.forms_headings, tree_forms, ← Passage.openings_headings, List.filterMap_cons,
    List.filterMap_map]
  rfl

theorem events_conserved (text : List Char) (ps : List Passage) :
    (treeOfEvents text (eventsOf ps)).marks =
        TreeMark.around .root (some ⟨(LineIndex.ofText text).point 0,
          (LineIndex.ofText text).point (LineIndex.ofText text).size⟩)
          (Passage.marksOf (LineIndex.ofText text) ps) ∧
      (treeOfEvents text (eventsOf ps)).forms =
        (.root, (treeOfEvents text (eventsOf ps)).span) ::
          (openingsOf ps).map (Passage.formOf (LineIndex.ofText text)) ∧
      ((openingsOf ps).map Prod.fst).Sublist (eventsOf ps) ∧
      (openingsOf ps).filterMap Passage.kept = (eventsOf ps).filterMap Passage.announcement ∧
      (∀ o ∈ openingsOf ps, o.1.body.entered? = none → o.1.body.leaf? = some o.2) ∧
      (treeOfEvents text (eventsOf ps)).preorder.filterMap Node.headingDepth? =
        (eventsOf ps).filterMap Passage.headingLevel? ∧
      (treeOfEvents text (eventsOf ps)).text = Passage.contentOf ps ∧
      ∀ document, Balanced (events document) := by
  have tree := tree_of_passages text ps
  refine ⟨?_, tree_forms text ps, Passage.passages_openings_in_order ps, Passage.passages_announced ps,
    Passage.passages_leaf_openings ps, tree_headings text ps, ?_, events_balanced⟩
  · rw [tree, Node.marks, Passage.joined_marks, Passage.nodes_marks]
  · rw [tree, Node.text]
    exact (Passage.joined_text _ ps).trans (Passage.nodes_text _ ps)

theorem events_conserved_outline :
    ∃ ps, eventsOf ps =
        [⟨.enter (.heading .h2), 0, 8⟩, ⟨.text "a", 0, 1⟩, ⟨.softBreak, 1, 2⟩, ⟨.code "b", 2, 5⟩,
          ⟨.leave, 0, 8⟩, ⟨.rule, 9, 12⟩] ∧
      (treeOfEvents "a\n`b`\n--\n***".toList (eventsOf ps)).text = "a\nb" ∧
      (treeOfEvents "a\n`b`\n--\n***".toList (eventsOf ps)).preorder.filterMap
        Node.headingDepth? = [2] ∧
      EventBody.rule.leaf? = some .thematicBreak := by
  have conserved := events_conserved "a\n`b`\n--\n***".toList
    [.around ⟨.enter (.heading .h2), 0, 8⟩ ⟨.leave, 0, 8⟩ (.heading .h2)
      [.single ⟨.text "a", 0, 1⟩ (.text "a") rfl, .single ⟨.softBreak, 1, 2⟩ (.text "\n") rfl,
        .single ⟨.code "b", 2, 5⟩ (.inlineCode "b") rfl] rfl rfl rfl,
      .single ⟨.rule, 9, 12⟩ .thematicBreak rfl]
  obtain ⟨_, _, _, _, leaves, headings, text, _⟩ := conserved
  exact ⟨_, rfl, text, headings, leaves (⟨.rule, 9, 12⟩, .thematicBreak) (by decide) rfl⟩

end Markdown

end Proofread
