import Proofread.Proofs.CollectedDirectives
import Proofread.Proofs.Conservation
import Proofread.Proofs.LineOrder
import Proofread.Proofs.TrimmedSpans

set_option autoImplicit false

namespace Proofread

open Text Point

namespace Node

def Precedes (a b : Node) : Prop :=
  ∀ s t, a.span = some s → b.span = some t → s.stop.le t.start = true

structure Arranged (n : Node) : Prop where
  inside : ∀ child ∈ n.children, ∀ outer inner, n.span = some outer → child.span = some inner →
    inner.start ≠ inner.stop → outer.start.le inner.start = true ∧ inner.stop.le outer.stop = true
  apart : n.children.Pairwise Precedes

def htmlEnd? (n : Node) : Option Point :=
  match n.kind, n.span with
  | .html _, some span => some span.stop
  | _, _ => none

def htmlEnds (n : Node) : List Point :=
  n.preorder.filterMap htmlEnd?

@[simp] theorem html_ends_node (kind : NodeKind) (span : Option Span) (children : List Node) :
    htmlEnds ⟨kind, span, children⟩ =
      (htmlEnd? ⟨kind, span, children⟩).toList ++ children.flatMap htmlEnds := by
  have below : (preorderList children).filterMap htmlEnd? = children.flatMap htmlEnds := by
    rw [preorder_list_flat, List.filterMap_flatMap]
    rfl
  rw [htmlEnds, preorder, List.filterMap_cons, below]
  cases htmlEnd? ⟨kind, span, children⟩ <;> rfl

theorem html_end_other (n : Node) (other : ∀ value, n.kind ≠ .html value) : n.htmlEnd? = none := by
  obtain ⟨kind, span, children⟩ := n
  cases kind with
  | html value => exact absurd rfl (other value)
  | _ => rfl

end Node

namespace Markdown

open Node (Precedes Arranged putBehind joined htmlEnds)
open Passage (nodesOf eventsOf)

namespace Passage

def opening : Passage → Event
  | .single event _ _ => event
  | .literal first _ _ _ _ _ _ _ => first
  | .around first _ _ _ _ _ _ => first

mutual
-- The ranges inside the passage lie in its own, one after the other.
def Nested (text : List Char) : Passage → Prop
  | .single _ _ _ => True
  | .literal _ _ _ _ _ _ _ _ => True
  | .around first _ _ content _ _ _ => InOrder text first.start first.stop content
-- The ranges of the passages follow one another from `low` to `high`, and so inside each of them.
def InOrder (text : List Char) : Nat → Nat → List Passage → Prop
  | low, high, [] => low ≤ high
  | low, high, p :: rest =>
      low ≤ p.opening.start ∧ p.opening.start ≤ p.opening.stop ∧
        Boundary text p.opening.start ∧ Boundary text p.opening.stop ∧ p.Nested text ∧
        InOrder text p.opening.stop high rest
end

theorem in_order_bounds (text : List Char) (low high : Nat) (ps : List Passage)
    (ordered : InOrder text low high ps) : low ≤ high := by
  induction ps generalizing low with
  | nil => exact ordered
  | cons p rest ih =>
      obtain ⟨first, forward, _, _, _, others⟩ := ordered
      have later := ih p.opening.stop others
      omega

end Passage

structure Settled (text : List Char) (n : Node) : Prop where
  trimmed : Spanned (Span.Trimmed text) n
  arranged : ∀ m ∈ n.preorder, m.Arranged

-- Nodes that stand in reverse, between two offsets.
structure Behind (text : List Char) (low high : Nat) (nodes : List Node) : Prop where
  settled : ∀ n ∈ nodes, Settled text n
  bounds : ∀ n ∈ nodes, ∀ span, n.span = some span →
    low ≤ span.start.offset ∧ span.stop.offset ≤ high
  apart : nodes.Pairwise fun later earlier => earlier.Precedes later

section

variable (text : List Char)

theorem settled_span (n : Node) (settled : Settled text n) :
    ∃ span, n.span = some span ∧ span.Trimmed text :=
  settled.trimmed n (Node.self_in_preorder n)

theorem settled_node (kind : NodeKind) (span : Span) (children : List Node)
    (trimmed : span.Trimmed text) (arranged : Arranged ⟨kind, some span, children⟩)
    (below : ∀ n ∈ children, Settled text n) : Settled text ⟨kind, some span, children⟩ := by
  refine ⟨(spanned_node _ kind span children).mpr ⟨trimmed, fun n child => (below n child).trimmed⟩,
    ?_⟩
  intro m listed
  rcases (Node.mem_preorder _ m).mp listed with own | ⟨n, child, inside⟩
  · rw [own]
    exact arranged
  · exact (below n child).arranged m inside

theorem settled_leaf (kind : NodeKind) (span : Span) (trimmed : span.Trimmed text) :
    Settled text (.leaf kind (some span)) :=
  settled_node text kind span [] trimmed
    ⟨fun _ listed => absurd listed List.not_mem_nil, List.Pairwise.nil⟩
    fun _ listed => absurd listed List.not_mem_nil

theorem precedes_of_bounds (a b : Node) (first : Settled text a) (second : Settled text b)
    (reached : Nat) (ends : ∀ s, a.span = some s → s.stop.offset ≤ reached)
    (starts : ∀ t, b.span = some t → reached ≤ t.start.offset) : a.Precedes b := by
  intro s t here there
  obtain ⟨own, placed, trimmed⟩ := settled_span text a first
  obtain ⟨other, placed', trimmed'⟩ := settled_span text b second
  rw [here] at placed
  rw [there] at placed'
  cases placed
  cases placed'
  rw [le_iff_offset text _ _ (Span.trimmed_within text s trimmed).ends.2
    (Span.trimmed_within text t trimmed').ends.1]
  exact Nat.le_trans (ends s here) (starts t there)

-- The node that two texts share: its end is that of the second one, which is no further to the left.
theorem settled_join (a b : Node) (first : Settled text a) (second : Settled text b)
    (meet : a.meets b = true) : Settled text (a.join b) := by
  obtain ⟨v, s, below, w, t, more, rfl, rfl, adjacent⟩ := Node.meets_texts a b meet
  obtain ⟨trimmed, children⟩ := (spanned_node _ _ s below).mp first.trimmed
  obtain ⟨trimmed', _⟩ := (spanned_node _ _ t more).mp second.trimmed
  have arranged := first.arranged _ (Node.self_in_preorder _)
  have joint := Span.trimmed_joined text s t trimmed trimmed' adjacent
  refine settled_node text _ ⟨s.start, t.stop⟩ below joint ⟨?_, arranged.apart⟩ ?_
  · intro child listed outer inner own placed nonempty
    cases own
    obtain ⟨above, under⟩ := arranged.inside child listed s inner rfl placed nonempty
    obtain ⟨place, same, within⟩ := children child listed child (Node.self_in_preorder child)
    rw [placed] at same
    cases same
    have stop := (Span.trimmed_within text inner within).ends.2
    have ends := Span.trimmed_within text s trimmed
    have ends' := Span.trimmed_within text t trimmed'
    have last := ends'.forward
    rw [le_iff_offset text _ _ stop ends.ends.2] at under
    refine ⟨above, (le_iff_offset text _ _ stop ends'.ends.2).mpr ?_⟩
    omega
  · intro child listed
    refine ⟨children child listed, ?_⟩
    intro m inside
    exact first.arranged m ((Node.mem_preorder _ m).mpr (Or.inr ⟨child, listed, inside⟩))

theorem behind_nil (low high : Nat) : Behind text low high [] :=
  ⟨fun _ listed => absurd listed List.not_mem_nil, fun _ listed => absurd listed List.not_mem_nil,
    List.Pairwise.nil⟩

theorem behind_pushed (low reached high : Nat) (nodes : List Node) (n : Node)
    (behind : Behind text low reached nodes) (settled : Settled text n) (span : Span)
    (placed : n.span = some span) (first : low ≤ reached) (starts : reached ≤ span.start.offset)
    (ends : span.stop.offset ≤ high) : Behind text low high (n :: nodes) := by
  obtain ⟨own, here, trimmed⟩ := settled_span text n settled
  rw [placed] at here
  cases here
  have forward := (Span.trimmed_within text span trimmed).forward
  refine ⟨List.forall_mem_cons.mpr ⟨settled, behind.settled⟩,
    List.forall_mem_cons.mpr ⟨?_, ?_⟩, List.pairwise_cons.mpr ⟨?_, behind.apart⟩⟩
  · intro same alike
    rw [placed] at alike
    cases alike
    omega
  · intro m listed place stands
    have bounds := behind.bounds m listed place stands
    omega
  · intro m listed
    refine precedes_of_bounds text m n (behind.settled m listed) settled reached ?_ ?_
    · intro s stands
      exact (behind.bounds m listed s stands).2
    · intro t stands
      rw [placed] at stands
      cases stands
      exact starts

theorem behind_joined (low reached high : Nat) (last n : Node) (others : List Node)
    (behind : Behind text low reached (last :: others)) (settled : Settled text n)
    (meet : last.meets n = true) (span : Span) (placed : n.span = some span)
    (starts : reached ≤ span.start.offset) (ends : span.stop.offset ≤ high) :
    Behind text low high (last.join n :: others) := by
  obtain ⟨lastSettled, othersSettled⟩ := List.forall_mem_cons.mp behind.settled
  obtain ⟨lastBounds, othersBounds⟩ := List.forall_mem_cons.mp behind.bounds
  obtain ⟨lastApart, othersApart⟩ := List.pairwise_cons.mp behind.apart
  have joint := settled_join text last n lastSettled settled meet
  obtain ⟨own, here, trimmed⟩ := settled_span text n settled
  rw [placed] at here
  cases here
  have forward := (Span.trimmed_within text span trimmed).forward
  obtain ⟨v, s, below, w, t, more, rfl, rfl, adjacent⟩ := Node.meets_texts last n meet
  cases placed
  have bounds := lastBounds s rfl
  refine ⟨List.forall_mem_cons.mpr ⟨joint, othersSettled⟩,
    List.forall_mem_cons.mpr ⟨?_, ?_⟩, List.pairwise_cons.mpr ⟨?_, othersApart⟩⟩
  · intro same alike
    cases alike
    exact ⟨bounds.1, ends⟩
  · intro m listed place stands
    have earlier := othersBounds m listed place stands
    omega
  · intro m listed e same stands alike
    cases alike
    exact lastApart m listed e s stands rfl

theorem behind_put (low reached high : Nat) (nodes : List Node) (n : Node)
    (behind : Behind text low reached nodes) (settled : Settled text n) (span : Span)
    (placed : n.span = some span) (first : low ≤ reached) (starts : reached ≤ span.start.offset)
    (ends : span.stop.offset ≤ high) : Behind text low high (putBehind nodes n) := by
  cases nodes with
  | nil => exact behind_pushed text low reached high [] n behind settled span placed first starts ends
  | cons last others =>
      rw [putBehind]
      cases meet : last.meets n with
      | false =>
          exact behind_pushed text low reached high (last :: others) n behind settled span placed
            first starts ends
      | true =>
          exact behind_joined text low reached high last n others behind settled meet span placed
            starts ends

theorem behind_arranged (kind : NodeKind) (span : Span) (low high : Nat) (nodes : List Node)
    (behind : Behind text low high nodes)
    (covers : ∀ inner : Span, inner.Trimmed text → inner.start ≠ inner.stop →
      low ≤ inner.start.offset → inner.stop.offset ≤ high →
        span.start.le inner.start = true ∧ inner.stop.le span.stop = true) :
    Arranged ⟨kind, some span, nodes.reverse⟩ := by
  refine ⟨?_, List.pairwise_reverse.mpr behind.apart⟩
  intro child listed outer inner own placed nonempty
  cases own
  rw [List.mem_reverse] at listed
  obtain ⟨place, same, trimmed⟩ := settled_span text child (behind.settled child listed)
  rw [placed] at same
  cases same
  obtain ⟨above, below⟩ := behind.bounds child listed inner placed
  exact covers inner trimmed nonempty above below

theorem index_span_covers (start stop : Nat) (left : Boundary text start)
    (right : Boundary text stop) (forward : start ≤ stop) (inner : Span)
    (trimmed : inner.Trimmed text) (nonempty : inner.start ≠ inner.stop)
    (above : start ≤ inner.start.offset) (below : inner.stop.offset ≤ stop) :
    ((LineIndex.ofText text).span start stop).start.le inner.start = true ∧
      inner.stop.le ((LineIndex.ofText text).span start stop).stop = true := by
  obtain ⟨own, begins, _⟩ := LineIndex.span_trimmed text start stop left right forward
  have covers :=
    LineIndex.span_covers text start stop left right forward inner trimmed nonempty above below
  have outer := (Span.trimmed_within text _ own).ends
  have ends := (Span.trimmed_within text inner trimmed).ends
  rw [le_iff_offset text _ _ outer.1 ends.1, le_iff_offset text _ _ ends.2 outer.2, begins]
  exact ⟨above, covers⟩

theorem node_span (p : Passage) :
    (p.node (LineIndex.ofText text)).span =
      some ((LineIndex.ofText text).span p.opening.start p.opening.stop) := by
  cases p <;> rfl

mutual
theorem passage_settled (p : Passage) (left : Boundary text p.opening.start)
    (right : Boundary text p.opening.stop) (forward : p.opening.start ≤ p.opening.stop)
    (nested : p.Nested text) : Settled text (p.node (LineIndex.ofText text)) := by
  have trimmed := (LineIndex.span_trimmed text _ _ left right forward).1
  cases p with
  | single event kind stands => exact settled_leaf text kind _ trimmed
  | literal first last construct pieces enters keeps written leaves =>
      exact settled_leaf text _ _ trimmed
  | around first last construct content enters passes leaves =>
      have row := passages_behind content first.start first.start first.stop [] (Nat.le_refl _)
        nested (behind_nil text _ _)
      have arranged := behind_arranged text construct.nodeKind _ _ _ _ row
        (index_span_covers text first.start first.stop left right forward)
      exact settled_node text _ _ _ trimmed arranged
        fun n child => row.settled n (List.mem_reverse.mp child)
theorem passages_behind (ps : List Passage) (low reached high : Nat) (nodes : List Node)
    (first : low ≤ reached) (ordered : Passage.InOrder text reached high ps)
    (behind : Behind text low reached nodes) :
    Behind text low high ((nodesOf (LineIndex.ofText text) ps).foldl putBehind nodes) := by
  cases ps with
  | nil =>
      refine ⟨behind.settled, ?_, behind.apart⟩
      intro n listed span placed
      obtain ⟨above, below⟩ := behind.bounds n listed span placed
      exact ⟨above, Nat.le_trans below ordered⟩
  | cons p rest =>
      obtain ⟨starts, forward, left, right, nested, others⟩ := ordered
      obtain ⟨_, begins, ends⟩ := LineIndex.span_trimmed text _ _ left right forward
      have settled := passage_settled p left right forward nested
      have put := behind_put text low reached p.opening.stop nodes _ behind settled _
        (node_span text p) first (by rw [begins]; exact starts) ends
      exact passages_behind rest low p.opening.stop high _ (by omega) others put
end

structure Ascending (low high : Nat) (points : List Point) : Prop where
  places : ∀ p ∈ points, p.In text ∧ low ≤ p.offset ∧ p.offset ≤ high
  sorted : points.Pairwise fun p q => p.le q = true

theorem ascending_nil (low high : Nat) : Ascending text low high [] :=
  ⟨fun _ listed => absurd listed List.not_mem_nil, List.Pairwise.nil⟩

theorem ascending_append (low middle high : Nat) (a b : List Point)
    (left : Ascending text low middle a) (right : Ascending text middle high b)
    (first : low ≤ middle) (last : middle ≤ high) : Ascending text low high (a ++ b) := by
  refine ⟨?_, List.pairwise_append.mpr ⟨left.sorted, right.sorted, ?_⟩⟩
  · intro p listed
    rcases List.mem_append.mp listed with inLeft | inRight
    · obtain ⟨place, above, below⟩ := left.places p inLeft
      exact ⟨place, above, Nat.le_trans below last⟩
    · obtain ⟨place, above, below⟩ := right.places p inRight
      exact ⟨place, Nat.le_trans first above, below⟩
  · intro p inLeft q inRight
    obtain ⟨here, _, below⟩ := left.places p inLeft
    obtain ⟨there, above, _⟩ := right.places q inRight
    exact (le_iff_offset text p q here there).mpr (Nat.le_trans below above)

theorem leaf_html_ends (kind : NodeKind) (start stop : Nat) (left : Boundary text start)
    (right : Boundary text stop) (forward : start ≤ stop) :
    Ascending text start stop
      (Node.leaf kind (some ((LineIndex.ofText text).span start stop))).htmlEnds := by
  obtain ⟨trimmed, begins, ends⟩ := LineIndex.span_trimmed text start stop left right forward
  have within := Span.trimmed_within text _ trimmed
  have ordered := within.forward
  have single : (Node.leaf kind (some ((LineIndex.ofText text).span start stop))).htmlEnds = [] ∨
      (Node.leaf kind (some ((LineIndex.ofText text).span start stop))).htmlEnds =
        [((LineIndex.ofText text).span start stop).stop] := by
    rw [Node.leaf, Node.html_ends_node]
    cases kind with
    | html value => exact Or.inr rfl
    | _ => exact Or.inl rfl
  rcases single with none | one
  · rw [none]
    exact ascending_nil text start stop
  · rw [one]
    refine ⟨?_, List.pairwise_singleton _ _⟩
    intro p listed
    rw [List.mem_singleton.mp listed]
    exact ⟨within.ends.2, by omega, ends⟩

theorem joined_html_ends (ps : List Passage) :
    (joined (nodesOf (LineIndex.ofText text) ps)).flatMap htmlEnds =
      (nodesOf (LineIndex.ofText text) ps).flatMap htmlEnds := by
  refine Passage.joined_nodes_read _ htmlEnds (fun v w s t place below => ?_) ps
  rw [Node.html_ends_node, Node.html_ends_node, Node.html_ends_node]
  simp [Node.htmlEnd?]

theorem around_html_ends (construct : Construct) (passes : construct.isLiteral = false)
    (span : Option Span) (children : List Node) :
    htmlEnds ⟨construct.nodeKind, span, children⟩ = children.flatMap htmlEnds := by
  rw [Node.html_ends_node, Node.html_end_other]
  · rfl
  · intro value
    cases construct <;> first | exact NodeKind.noConfusion | cases passes

mutual
theorem passage_html_ends (p : Passage) (left : Boundary text p.opening.start)
    (right : Boundary text p.opening.stop) (forward : p.opening.start ≤ p.opening.stop)
    (nested : p.Nested text) : Ascending text p.opening.start p.opening.stop
      (p.node (LineIndex.ofText text)).htmlEnds := by
  cases p with
  | single event kind stands => exact leaf_html_ends text kind _ _ left right forward
  | literal first last construct pieces enters keeps written leaves =>
      exact leaf_html_ends text _ _ _ left right forward
  | around first last construct content enters passes leaves =>
      rw [Passage.node, around_html_ends construct passes, joined_html_ends]
      exact passages_html_ends content first.start first.stop nested
theorem passages_html_ends (ps : List Passage) (low high : Nat)
    (ordered : Passage.InOrder text low high ps) :
    Ascending text low high ((nodesOf (LineIndex.ofText text) ps).flatMap htmlEnds) := by
  cases ps with
  | nil => exact ascending_nil text low high
  | cons p rest =>
      obtain ⟨starts, forward, left, right, nested, others⟩ := ordered
      have own := passage_html_ends p left right forward nested
      have later := passages_html_ends rest p.opening.stop high others
      have wider : Ascending text low p.opening.stop (p.node (LineIndex.ofText text)).htmlEnds := by
        refine ⟨?_, own.sorted⟩
        intro q listed
        obtain ⟨place, above, below⟩ := own.places q listed
        exact ⟨place, Nat.le_trans starts above, below⟩
      rw [Passage.nodesOf, List.flatMap_cons]
      exact ascending_append text low p.opening.stop high _ _ wider later
        (Nat.le_trans starts forward) (Passage.in_order_bounds text _ high rest others)
end

end

end Markdown

namespace Lint

theorem toggle_html_end (n : Node) (t : Toggle) (read : Toggle.ofNode? n = some t) :
    n.htmlEnd? = some t.place := by
  obtain ⟨span, ⟨placed, value, kind, _⟩, stop⟩ := (toggle_of_node n t).mp read
  rw [Node.htmlEnd?, placed, kind, ← stop]

theorem toggle_places_sublist (nodes : List Node) :
    ((nodes.filterMap Toggle.ofNode?).map Toggle.place).Sublist
      (nodes.filterMap Node.htmlEnd?) := by
  induction nodes with
  | nil => exact List.Sublist.refl []
  | cons n rest ih =>
      cases read : Toggle.ofNode? n with
      | none =>
          rw [List.filterMap_cons_none read]
          refine ih.trans ?_
          cases ends : n.htmlEnd? with
          | none =>
              rw [List.filterMap_cons_none ends]
          | some place =>
              rw [List.filterMap_cons_some ends]
              exact List.sublist_cons_self _ _
      | some t =>
          have ends := toggle_html_end n t read
          rw [List.filterMap_cons_some read, List.filterMap_cons_some ends, List.map_cons]
          exact ih.cons_cons _

end Lint

namespace Markdown

open Node (putBehind)
open Passage (nodesOf eventsOf)

theorem root_placed (text : List Char) :
    Span.Within text ⟨(LineIndex.ofText text).point 0,
      (LineIndex.ofText text).point (LineIndex.ofText text).size⟩ := by
  obtain ⟨start, first⟩ := LineIndex.boundary_place text 0 (boundary_start text)
  obtain ⟨stop, last⟩ := LineIndex.boundary_place text _ (boundary_stop text)
  rw [LineIndex.size_bytes]
  exact ⟨⟨start, stop⟩, by rw [first]; exact Nat.zero_le _⟩

theorem root_covers (text : List Char) (inner : Span) (trimmed : inner.Trimmed text) :
    ((LineIndex.ofText text).point 0).le inner.start = true ∧
      inner.stop.le ((LineIndex.ofText text).point (LineIndex.ofText text).size) = true := by
  obtain ⟨start, first⟩ := LineIndex.boundary_place text 0 (boundary_start text)
  obtain ⟨stop, last⟩ := LineIndex.boundary_place text _ (boundary_stop text)
  have ends := (Span.trimmed_within text inner trimmed).ends
  obtain ⟨read, ⟨rest, whole⟩, here⟩ := ends.2
  have bytes := byte_length_append read rest
  rw [whole, ← offset_after_origin read, ← here] at bytes
  rw [LineIndex.size_bytes, le_iff_offset text _ _ start ends.1, le_iff_offset text _ _ ends.2 stop,
    first, last]
  omega

theorem tree_behind (text : List Char) (ps : List Passage)
    (ordered : Passage.InOrder text 0 (byteLength text) ps) :
    Behind text 0 (byteLength text) ((nodesOf (LineIndex.ofText text) ps).foldl putBehind []) :=
  passages_behind text ps 0 0 (byteLength text) [] (Nat.le_refl _) ordered (behind_nil text _ _)

theorem tree_arranged (text : List Char) (ps : List Passage)
    (ordered : Passage.InOrder text 0 (byteLength text) ps) :
    (treeOfEvents text (eventsOf ps)).Arranged := by
  rw [tree_of_passages]
  exact behind_arranged text .root _ 0 (byteLength text) _ (tree_behind text ps ordered)
    fun inner trimmed _ _ _ => root_covers text inner trimmed

theorem tree_settled (text : List Char) (ps : List Passage)
    (ordered : Passage.InOrder text 0 (byteLength text) ps) :
    ∀ n ∈ Node.preorderList (treeOfEvents text (eventsOf ps)).children,
      n.Arranged ∧ ∃ span, n.span = some span ∧ span.Trimmed text := by
  intro n listed
  rw [tree_of_passages] at listed
  obtain ⟨child, among, inside⟩ := (Node.mem_preorder_list _ n).mp listed
  have settled := (tree_behind text ps ordered).settled child (List.mem_reverse.mp among)
  exact ⟨settled.arranged n inside, settled.trimmed n inside⟩

theorem tree_html_ends (text : List Char) (ps : List Passage)
    (ordered : Passage.InOrder text 0 (byteLength text) ps) :
    (treeOfEvents text (eventsOf ps)).htmlEnds.Pairwise fun p q => p.le q = true := by
  rw [tree_of_passages, Node.html_ends_node, joined_html_ends]
  exact (passages_html_ends text ps 0 (byteLength text) ordered).sorted

theorem tree_spans_nested (text : List Char) (ps : List Passage)
    (ordered : Passage.InOrder text 0 (byteLength text) ps) :
    (∀ n ∈ (treeOfEvents text (eventsOf ps)).preorder, n.Arranged ∧
      ∃ span, n.span = some span ∧ span.In text ∧ span.start.le span.stop = true) ∧
    (∀ n ∈ Node.preorderList (treeOfEvents text (eventsOf ps)).children,
      ∃ span, n.span = some span ∧ span.Trimmed text) ∧
    ((treeOfEvents text (eventsOf ps)).htmlEnds.Pairwise fun p q => p.le q = true) ∧
    ∀ c, Lint.Controls.collect (treeOfEvents text (eventsOf ps)) = .ok c →
      (c.toggles.map Lint.Toggle.place).Pairwise fun p q => p.le q = true := by
  have below := tree_settled text ps ordered
  have ends := tree_html_ends text ps ordered
  have forward : ∀ span : Span, span.Within text →
      span.In text ∧ span.start.le span.stop = true := fun span within =>
    ⟨within.ends, (le_iff_offset text _ _ within.ends.1 within.ends.2).mpr within.forward⟩
  refine ⟨?_, fun n listed => (below n listed).2, ends, ?_⟩
  · intro n listed
    rw [Node.preorder_root, List.mem_cons] at listed
    rcases listed with root | inside
    · rw [root]
      refine ⟨tree_arranged text ps ordered, _, ?_, forward _ (root_placed text)⟩
      rw [tree_of_passages]
    · obtain ⟨arranged, span, placed, trimmed⟩ := below n inside
      exact ⟨arranged, span, placed, forward span (Span.trimmed_within text span trimmed)⟩
  · intro c collected
    rw [Node.htmlEnds, Node.preorder_root] at ends
    rw [Lint.Controls.collect_toggles _ c collected]
    exact List.Pairwise.sublist
      ((Lint.toggle_places_sublist _).trans ((List.sublist_cons_self _ _).filterMap _)) ends

def quotedText : List Char :=
  "> a\n> b <i>\n\n<!--lint disable-->\n".toList

def quotedPassages : List Passage := [
  .around ⟨.enter .blockquote, 0, 12⟩ ⟨.leave, 0, 12⟩ .blockquote [
    .around ⟨.enter .paragraph, 2, 12⟩ ⟨.leave, 2, 12⟩ .paragraph [
      .single ⟨.text "a", 2, 3⟩ (.text "a") rfl,
      .single ⟨.softBreak, 3, 4⟩ (.text "\n") rfl,
      .single ⟨.text "b ", 6, 8⟩ (.text "b ") rfl,
      .single ⟨.inlineHtml "<i>", 8, 11⟩ (.html "<i>") rfl] rfl rfl rfl] rfl rfl rfl,
  .literal ⟨.enter .htmlBlock, 13, 33⟩ ⟨.leave, 13, 33⟩ .htmlBlock
    [⟨.html "<!--lint disable-->\n", 13, 33⟩] rfl rfl (by decide) rfl]

theorem tree_spans_nested_quoted :
    eventsOf quotedPassages = events quotedText ∧
      Passage.InOrder quotedText 0 (byteLength quotedText) quotedPassages ∧
      (∀ n ∈ (treeOfEvents quotedText (eventsOf quotedPassages)).preorder, n.Arranged) ∧
      (treeOfEvents quotedText (eventsOf quotedPassages)).htmlEnds = [⟨2, 8, 11⟩, ⟨4, 20, 32⟩] ∧
      Point.le ⟨2, 8, 11⟩ ⟨4, 20, 32⟩ = true := by
  have widths : ∀ count ∈ List.range 34, byteLength (quotedText.take count) = count := by
    decide +kernel
  have boundary : ∀ offset < 34, Boundary quotedText offset := fun offset small =>
    ⟨quotedText.take offset, List.take_prefix _ _, widths offset (List.mem_range.mpr small)⟩
  have ordered : Passage.InOrder quotedText 0 (byteLength quotedText) quotedPassages := by
    rw [show byteLength quotedText = 33 from rfl]
    simp [quotedPassages, Passage.InOrder, Passage.Nested, Passage.opening, boundary]
  obtain ⟨nodes, _, sorted, _⟩ := tree_spans_nested quotedText quotedPassages ordered
  have ends : (treeOfEvents quotedText (eventsOf quotedPassages)).htmlEnds =
      [⟨2, 8, 11⟩, ⟨4, 20, 32⟩] := by
    decide +kernel
  rw [ends] at sorted
  exact ⟨by decide +kernel, ordered, fun n listed => (nodes n listed).1, ends,
    List.rel_of_pairwise_cons sorted (List.mem_singleton.mpr rfl)⟩

end Markdown

end Proofread
