import Proofread.Markdown.Parse
import Proofread.Proofs.Places
import Proofread.Proofs.Siblings

set_option autoImplicit false

namespace Proofread

open Text Point

structure Span.Within (text : List Char) (span : Span) : Prop where
  ends : span.In text
  forward : span.start.offset ≤ span.stop.offset

theorem Span.within_joined (text : List Char) (s t : Span) (left : s.Within text)
    (right : t.Within text) (adjacent : s.stop.offset = t.start.offset) :
    (Span.mk s.start t.stop).Within text := by
  refine ⟨⟨left.ends.1, right.ends.2⟩, ?_⟩
  have first := left.forward
  have second := right.forward
  simp only
  omega

def Boundary (text : List Char) (offset : Nat) : Prop :=
  ∃ read, read <+: text ∧ byteLength read = offset

namespace LineIndex

theorem between_reads (read inside rest : List Char) :
    (ofText (read ++ (inside ++ rest))).between (byteLength read)
      (byteLength read + byteLength inside) = inside := by
  obtain ⟨n, line, tail, reached, remaining, place, _⟩ := line_at_reaches read (inside ++ rest)
  have first : byteLength read - line.start = byteLength tail := by omega
  have width : byteLength read + byteLength inside - byteLength read = byteLength inside := by omega
  simp only [between, reached, remaining, first, width, drop_bytes_append, take_bytes_append]

theorem span_reads (read inside rest : List Char) :
    (ofText (read ++ (inside ++ rest))).span (byteLength read)
        (byteLength read + byteLength inside) =
      ⟨origin.after read, origin.after (read ++ trimEnd inside)⟩ := by
  have size : (ofText (read ++ (inside ++ rest))).size =
      byteLength read + (byteLength inside + byteLength rest) := by simp
  have last : min (byteLength read + byteLength inside)
      (ofText (read ++ (inside ++ rest))).size = byteLength read + byteLength inside := by omega
  have first : min (byteLength read) (byteLength read + byteLength inside) = byteLength read := by
    omega
  obtain ⟨blanks, trimmed⟩ := trim_end_prefix inside
  have stop := point_after (read ++ trimEnd inside) (blanks ++ rest)
  rw [byte_length_append, List.append_assoc, ← List.append_assoc (trimEnd inside), trimmed] at stop
  simp only [span, last, first, between_reads, point_after, stop]

-- Between two offsets in order a span is the part of the text there, but for white space at its end.
theorem span_forward (text : List Char) (start stop : Nat) (left : Boundary text start)
    (right : Boundary text stop) (forward : start ≤ stop) :
    ∃ read inside rest, text = read ++ (inside ++ rest) ∧ byteLength read = start ∧
      byteLength (read ++ inside) = stop ∧
      (ofText text).span start stop =
        ⟨origin.after read, origin.after (read ++ trimEnd inside)⟩ := by
  obtain ⟨a, inText, here⟩ := left
  obtain ⟨b, inTextToo, there⟩ := right
  rw [← here, ← there] at forward
  obtain ⟨inside, reaches⟩ := prefix_of_bytes text a b inText inTextToo forward
  obtain ⟨rest, whole⟩ := inTextToo
  rw [← reaches, List.append_assoc] at whole
  refine ⟨a, inside, rest, whole.symm, here, by rw [reaches, there], ?_⟩
  rw [← here, ← there, ← reaches, ← whole, byte_length_append]
  exact span_reads a inside rest

theorem span_part (text : List Char) (start stop : Nat) (left : Boundary text start)
    (right : Boundary text stop) :
    ∃ read inside rest, text = read ++ (inside ++ rest) ∧
      (ofText text).span start stop =
        ⟨origin.after read, origin.after (read ++ trimEnd inside)⟩ := by
  rcases Nat.le_total start stop with forward | backward
  · obtain ⟨read, inside, rest, whole, _, _, same⟩ :=
      span_forward text start stop left right forward
    exact ⟨read, inside, rest, whole, same⟩
  · obtain ⟨b, ⟨rest, whole⟩, there⟩ := right
    have same : (ofText text).span start stop = (ofText text).span stop stop := by
      have outer : min start (min stop (ofText text).size) = min stop (ofText text).size := by omega
      have inner : min stop (min stop (ofText text).size) = min stop (ofText text).size := by omega
      simp only [span, outer, inner]
    refine ⟨b, [], rest, whole.symm, ?_⟩
    rw [same, ← there, ← whole]
    exact span_reads b [] rest

theorem span_in (text : List Char) (start stop : Nat) (left : Boundary text start)
    (right : Boundary text stop) : ((ofText text).span start stop).In text := by
  obtain ⟨read, inside, rest, whole, same⟩ := span_part text start stop left right
  obtain ⟨blanks, trimmed⟩ := trim_end_prefix inside
  rw [same]
  refine ⟨⟨read, ⟨inside ++ rest, whole.symm⟩, rfl⟩,
    ⟨read ++ trimEnd inside, ⟨blanks ++ rest, ?_⟩, rfl⟩⟩
  rw [whole, List.append_assoc, ← List.append_assoc (trimEnd inside), trimmed]

theorem span_within (text : List Char) (start stop : Nat) (left : Boundary text start)
    (right : Boundary text stop) : ((ofText text).span start stop).Within text := by
  refine ⟨span_in text start stop left right, ?_⟩
  obtain ⟨read, inside, rest, _, same⟩ := span_part text start stop left right
  have grown := after_offset (origin.after read) (trimEnd inside)
  simp only [same, after_append, grown]
  exact Nat.le_add_right _ _

theorem span_clamped (text : List Char) (start stop : Nat) :
    (ofText text).span start stop =
      (ofText text).span (min start (byteLength text)) (min stop (byteLength text)) := by
  have last : min (min stop (byteLength text)) (ofText text).size =
      min stop (ofText text).size := by
    simp
  have first : min (min start (byteLength text)) (min stop (ofText text).size) =
      min start (min stop (ofText text).size) := by
    rw [size_bytes]
    omega
  simp only [span, last, first]

end LineIndex

namespace Markdown

def Spanned (Q : Span → Prop) (n : Node) : Prop :=
  ∀ m ∈ n.preorder, ∃ span, m.span = some span ∧ Q span

def Shallow (kind : NodeKind) : Prop :=
  ∀ depth, kind.headingDepth? = some depth → depth ≤ 6

theorem node_kind_shallow (construct : Construct) : Shallow construct.nodeKind := by
  intro depth heads
  cases construct <;> cases heads
  exact HeadingLevel.depth_le _

theorem no_heading_shallow (kind : NodeKind) (other : kind.headingDepth? = none) :
    Shallow kind := by
  intro depth heads
  rw [other] at heads
  cases heads

-- What holds of a tree whose nodes were all made from events.
def Regular (Q : Span → Prop) (n : Node) : Prop :=
  ∀ m ∈ n.preorder, Shallow m.kind ∧ ∃ span, m.span = some span ∧ Q span

section

variable (index : LineIndex) (Q : Span → Prop)

theorem every_node (P : Node → Prop) (n : Node) :
    (∀ m ∈ n.preorder, P m) ↔ P n ∧ ∀ child ∈ n.children, ∀ m ∈ child.preorder, P m := by
  simp only [Node.mem_preorder n]
  constructor
  · intro all
    exact ⟨all n (Or.inl rfl), fun child listed m inside => all m (Or.inr ⟨child, listed, inside⟩)⟩
  · rintro ⟨own, below⟩ m (rfl | ⟨child, listed, inside⟩)
    · exact own
    · exact below child listed m inside

@[simp] theorem spanned_node (kind : NodeKind) (span : Span) (children : List Node) :
    Spanned Q ⟨kind, some span, children⟩ ↔ Q span ∧ ∀ n ∈ children, Spanned Q n := by
  rw [Spanned, every_node]
  simp only [Option.some.injEq, exists_eq_left', Spanned]

@[simp] theorem regular_node (kind : NodeKind) (span : Span) (children : List Node) :
    Regular Q ⟨kind, some span, children⟩ ↔
      (Shallow kind ∧ Q span) ∧ ∀ n ∈ children, Regular Q n := by
  rw [Regular, every_node]
  simp only [Option.some.injEq, exists_eq_left', Regular]

theorem regular_leaf (kind : NodeKind) (span : Span) (other : kind.headingDepth? = none)
    (own : Q span) : Regular Q (.leaf kind (some span)) :=
  (regular_node Q kind span []).mpr
    ⟨⟨no_heading_shallow kind other, own⟩, fun _ listed => absurd listed List.not_mem_nil⟩

structure FrameInvariant (frame : Frame) : Prop where
  shallow : Shallow frame.kind
  own : Q (index.span frame.start frame.stop)
  children : ∀ n ∈ frame.children, Regular Q n

def OpenInvariant (frames : OpenFrames) : Prop :=
  ∀ frame ∈ frames.current :: frames.outer, FrameInvariant index Q frame

theorem opened_invariant (kind : NodeKind) (start stop : Nat) (shallow : Shallow kind)
    (own : Q (index.span start stop)) : FrameInvariant index Q (.opened kind start stop) :=
  ⟨shallow, own, fun _ listed => absurd listed List.not_mem_nil⟩

theorem push_invariant (frame : Frame) (node : Node) (inv : FrameInvariant index Q frame)
    (regular : Regular Q node) : FrameInvariant index Q (frame.push node) :=
  ⟨inv.shallow, inv.own, List.forall_mem_cons.mpr ⟨regular, inv.children⟩⟩

theorem append_literal_invariant (frame : Frame) (value : String)
    (inv : FrameInvariant index Q frame) : FrameInvariant index Q (frame.appendLiteral value) :=
  ⟨inv.shallow, inv.own, inv.children⟩

theorem close_regular (frame : Frame) (inv : FrameInvariant index Q frame) :
    Regular Q (frame.close index) := by
  refine (regular_node Q _ _ _).mpr
    ⟨⟨?_, inv.own⟩, fun n listed => inv.children n (List.mem_reverse.mp listed)⟩
  obtain ⟨kind, start, stop, children, literal⟩ := frame
  cases kind with
  | code lang value => exact no_heading_shallow _ rfl
  | html value => exact no_heading_shallow _ rfl
  | _ => exact inv.shallow

variable (joined : ∀ s t : Span, Q s → Q t → s.stop.offset = t.start.offset → Q ⟨s.start, t.stop⟩)

include joined in
theorem push_text_invariant (frame : Frame) (value : String) (span : Span) (own : Q span)
    (inv : FrameInvariant index Q frame) : FrameInvariant index Q (frame.pushText value span) := by
  have pushed := push_invariant index Q frame _ inv (regular_leaf Q (.text value) span rfl own)
  rw [Frame.pushText]
  split
  · rename_i previous place below rest front
    by_cases adjacent : place.stop.offset = span.start.offset
    · rw [if_pos adjacent]
      have children := inv.children
      rw [front, List.forall_mem_cons, regular_node] at children
      obtain ⟨⟨⟨_, before⟩, inside⟩, others⟩ := children
      refine ⟨inv.shallow, inv.own, List.forall_mem_cons.mpr ⟨?_, others⟩⟩
      exact (regular_node Q _ _ _).mpr
        ⟨⟨no_heading_shallow _ rfl, joined place span before own adjacent⟩, inside⟩
    · rw [if_neg adjacent]
      exact pushed
  · exact pushed

include joined in
theorem step_invariant (frames : OpenFrames) (event : Event)
    (own : Q (index.span event.start event.stop)) (inv : OpenInvariant index Q frames) :
    OpenInvariant index Q (OpenFrames.step index frames event) := by
  obtain ⟨current, outer⟩ := frames
  obtain ⟨body, start, stop⟩ := event
  obtain ⟨here, around⟩ := List.forall_mem_cons.mp inv
  -- All events but the ends of constructs change the innermost construct alone.
  have replaced : ∀ frame, FrameInvariant index Q frame → OpenInvariant index Q ⟨frame, outer⟩ :=
    fun frame kept => List.forall_mem_cons.mpr ⟨kept, around⟩
  have text : ∀ value,
      OpenInvariant index Q ⟨current.pushText value (index.span start stop), outer⟩ :=
    fun value => replaced _ (push_text_invariant index Q joined current value _ own here)
  have leaf : ∀ kind, kind.headingDepth? = none →
      OpenInvariant index Q ⟨current.pushLeaf kind (index.span start stop), outer⟩ :=
    fun kind other =>
      replaced _ (push_invariant index Q current _ here (regular_leaf Q kind _ other own))
  have literal : ∀ value, OpenInvariant index Q ⟨current.appendLiteral value, outer⟩ :=
    fun value => replaced _ (append_literal_invariant index Q current value here)
  cases body with
  | enter construct =>
      exact List.forall_mem_cons.mpr
        ⟨opened_invariant index Q construct.nodeKind start stop (node_kind_shallow construct) own, inv⟩
  | leave =>
      cases outer with
      | nil => exact inv
      | cons parent outer =>
          obtain ⟨above, others⟩ := List.forall_mem_cons.mp around
          exact List.forall_mem_cons.mpr
            ⟨push_invariant index Q parent _ above (close_regular index Q current here), others⟩
  | text value =>
      simp only [OpenFrames.step]
      cases current.collectsLiteral with
      | true => exact literal value
      | false => exact text value
  | html value =>
      simp only [OpenFrames.step]
      cases current.collectsLiteral with
      | true => exact literal value
      | false => exact leaf _ rfl
  | inlineHtml value =>
      simp only [OpenFrames.step]
      cases current.collectsLiteral with
      | true => exact literal value
      | false => exact leaf _ rfl
  | softBreak => exact text "\n"
  | hardBreak => exact text "\n"
  | code value => exact leaf _ rfl
  | rule => exact leaf _ rfl

include joined in
theorem run_invariant (events : List Event)
    (own : ∀ event ∈ events, Q (index.span event.start event.stop)) (frames : OpenFrames)
    (inv : OpenInvariant index Q frames) :
    OpenInvariant index Q (events.foldl (OpenFrames.step index) frames) := by
  induction events generalizing frames with
  | nil => exact inv
  | cons event rest ih =>
      obtain ⟨first, others⟩ := List.forall_mem_cons.mp own
      exact ih others _ (step_invariant index Q joined frames event first inv)

theorem outermost_invariant (frames : OpenFrames) (inv : OpenInvariant index Q frames) :
    FrameInvariant index Q frames.outermost := by
  rw [OpenFrames.outermost]
  cases last : frames.outer.getLast? with
  | none => exact inv frames.current List.mem_cons_self
  | some frame =>
      exact inv frame (List.mem_cons_of_mem _ (List.mem_of_getLast? last))

end

theorem tree_of_events_regular (text : List Char) (events : List Event) (Q : Span → Prop)
    (whole : Q ((LineIndex.ofText text).span 0 (LineIndex.ofText text).size))
    (own : ∀ event ∈ events, Q ((LineIndex.ofText text).span event.start event.stop))
    (joined : ∀ s t : Span, Q s → Q t → s.stop.offset = t.start.offset → Q ⟨s.start, t.stop⟩)
    (n : Node) (below : n ∈ Node.preorderList (treeOfEvents text events).children) :
    Shallow n.kind ∧ ∃ span, n.span = some span ∧ Q span := by
  have start := opened_invariant (LineIndex.ofText text) Q .root 0 (LineIndex.ofText text).size
    (no_heading_shallow .root rfl) whole
  have ran := run_invariant (LineIndex.ofText text) Q joined events own ⟨_, []⟩
    (List.forall_mem_cons.mpr ⟨start, fun _ listed => absurd listed List.not_mem_nil⟩)
  have finished := outermost_invariant _ Q _ ran
  obtain ⟨child, listed, inside⟩ := (Node.mem_preorder_list _ n).mp below
  exact finished.children child (List.mem_reverse.mp listed) n inside

theorem tree_of_events_shallow (text : List Char) (events : List Event) (n : Node)
    (listed : n ∈ (treeOfEvents text events).preorder) : Shallow n.kind := by
  rw [Node.preorder_root, List.mem_cons] at listed
  rcases listed with root | below
  · rw [root]
    exact no_heading_shallow .root rfl
  · exact (tree_of_events_regular text events (fun _ => True) trivial (fun _ _ => trivial)
      (fun _ _ _ _ _ => trivial) n below).1

@[simp] theorem boundary_start (text : List Char) : Boundary text 0 :=
  ⟨[], List.nil_prefix, rfl⟩

@[simp] theorem boundary_stop (text : List Char) : Boundary text (byteLength text) :=
  ⟨text, List.prefix_refl text, rfl⟩

theorem recorded_boundaries (text read rest : List Char) (whole : text = read ++ rest)
    (offsets : Array Nat) (known : ∀ offset ∈ offsets, Boundary text offset) :
    ∀ offset ∈ (rest.foldl (fun (state : Array Nat × Nat) c =>
        (state.1.push (state.2 + c.utf8Size), state.2 + c.utf8Size))
        (offsets, byteLength read)).1, Boundary text offset := by
  induction rest generalizing read offsets with
  | nil => exact known
  | cons c rest ih =>
      have next : byteLength read + c.utf8Size = byteLength (read ++ [c]) := by simp
      have longer : text = (read ++ [c]) ++ rest := by rw [whole]; simp
      rw [List.foldl_cons, next]
      apply ih (read ++ [c]) longer
      intro offset listed
      rcases Array.mem_push.mp listed with earlier | last
      · exact known offset earlier
      · rw [last]
        exact ⟨read ++ [c], ⟨rest, longer.symm⟩, rfl⟩

theorem byte_offsets_boundaries (text : List Char) (offset : Nat)
    (listed : offset ∈ byteOffsets text) : Boundary text offset := by
  refine recorded_boundaries text [] text rfl #[0] ?_ offset listed
  intro first isFirst
  rw [show first = 0 by simpa using isFirst]
  exact boundary_start text

theorem events_boundaries (text : List Char) (event : Event) (listed : event ∈ events text) :
    Boundary text event.start ∧ Boundary text event.stop := by
  have settled : ∀ i : Nat,
      Boundary text ((byteOffsets text)[i]?.getD (byteLength text)) := by
    intro i
    cases found : (byteOffsets text)[i]? with
    | none => exact boundary_stop text
    | some offset => exact byte_offsets_boundaries text offset (Array.mem_of_getElem? found)
  simp only [events, List.mem_map] at listed
  obtain ⟨source, _, same⟩ := listed
  rw [← same]
  exact ⟨settled source.start, settled source.stop⟩

def BetweenCharacters (text : List Char) (events : List Event) : Prop :=
  ∀ event ∈ events, ∀ offset ∈ [event.start, event.stop],
    offset ≤ byteLength text → Boundary text offset

theorem clamped_boundary (text : List Char) (offset : Nat)
    (between : offset ≤ byteLength text → Boundary text offset) :
    Boundary text (min offset (byteLength text)) := by
  by_cases inside : offset ≤ byteLength text
  · rw [Nat.min_eq_left inside]
    exact between inside
  · rw [Nat.min_eq_right (Nat.le_of_not_le inside)]
    exact boundary_stop text

theorem nodes_within (text : List Char) (events : List Event)
    (between : BetweenCharacters text events) (n : Node)
    (below : n ∈ Node.preorderList (treeOfEvents text events).children) :
    ∃ span, n.span = some span ∧ span.Within text := by
  refine (tree_of_events_regular text events (Span.Within text) ?_ ?_ (Span.within_joined text)
    n below).2
  · exact LineIndex.span_within text _ _ (boundary_start text) (boundary_stop text)
  · intro event listed
    have ends := between event listed
    rw [LineIndex.span_clamped]
    exact LineIndex.span_within text _ _
      (clamped_boundary text _ (ends event.start (by simp)))
      (clamped_boundary text _ (ends event.stop (by simp)))

theorem events_between (text : List Char) : BetweenCharacters text (events text) := by
  intro event listed offset ends _
  obtain ⟨start, stop⟩ := events_boundaries text event listed
  rcases List.mem_cons.mp ends with first | second
  · rw [first]
    exact start
  · rw [List.mem_singleton.mp second]
    exact stop

end Markdown

end Proofread
