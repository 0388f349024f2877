import Proofread.Proofs.Conservation
import Proofread.Proofs.ParsedSpans

set_option autoImplicit false

namespace Proofread

namespace Node

theorem join_meets (a p q : Node) (meet : a.meets p = true) : (a.join p).meets q = p.meets q := by
  obtain ⟨v, s, below, w, t, more, rfl, rfl, _⟩ := meets_texts a p meet
  obtain ⟨kind, span, children⟩ := q
  cases kind <;> cases span <;> rfl

theorem text_marks (n : Node) (value : String) (text : n.kind = .text value) :
    n.marks = TreeMark.letters value := by
  obtain ⟨kind, span, children⟩ := n
  cases text
  rfl

@[simp] theorem marks_of_append (xs ys : List Node) : marksOf (xs ++ ys) = marksOf xs ++ marksOf ys := by
  rw [marks_of_flat, marks_of_flat, marks_of_flat, List.flatMap_append]

-- Only the last node of a row can still change.
theorem put_all_behind (nodes : List Node) (last : Node) (others : List Node) :
    nodes.foldl putBehind (last :: others) = nodes.foldl putBehind [last] ++ others := by
  induction nodes generalizing last others with
  | nil => rfl
  | cons n rest ih =>
      rw [List.foldl_cons, List.foldl_cons, putBehind, putBehind]
      cases last.meets n with
      | true => exact ih (last.join n) others
      | false =>
          have alone := ih n [last]
          have behind := ih n (last :: others)
          simp only [Bool.false_eq_true, if_false]
          rw [behind, alone, List.append_assoc, List.singleton_append]

theorem put_text (nodes : List Node) (value : String) (span : Span) :
    ∃ last others lead, putBehind nodes (.leaf (.text value) (some span)) = last :: others ∧
      last.kind = .text (lead ++ value) ∧
      ∀ n, last.meets n = (leaf (.text value) (some span)).meets n := by
  have alone : (leaf (.text value) (some span)).kind = .text ("" ++ value) := by
    rw [String.empty_append]
    rfl
  cases nodes with
  | nil => exact ⟨_, [], "", rfl, alone, fun _ => rfl⟩
  | cons before others =>
      rw [putBehind]
      cases meet : before.meets (leaf (.text value) (some span)) with
      | false => exact ⟨_, before :: others, "", rfl, alone, fun _ => rfl⟩
      | true =>
          have ends := join_meets before (leaf (.text value) (some span))
          obtain ⟨lead, s, below, w, t, more, rfl, same, _⟩ := meets_texts before _ meet
          exact ⟨_, others, lead, rfl, rfl, fun n => ends n meet⟩

theorem put_behind_text (nodes : List Node) (n : Node) (value : String)
    (text : n.kind = .text value) :
    ∃ more first rest, nodes.foldl putBehind [n] = rest ++ [first] ∧
      first.kind = .text (value ++ more) := by
  induction nodes generalizing n value with
  | nil => exact ⟨"", n, [], rfl, by rw [text, String.append_empty]⟩
  | cons next rest ih =>
      rw [List.foldl_cons, putBehind]
      cases meet : n.meets next with
      | false =>
          refine ⟨"", n, rest.foldl putBehind [next], ?_, by rw [text, String.append_empty]⟩
          exact put_all_behind rest next [n]
      | true =>
          obtain ⟨v, s, below, w, t, others, rfl, rfl, _⟩ := meets_texts n next meet
          cases text
          obtain ⟨more, first, behind, row, front⟩ :=
            ih ⟨.text (value ++ w), some ⟨s.start, t.stop⟩, below⟩ (value ++ w) rfl
          exact ⟨w ++ more, first, behind, row, by rw [front, String.append_assoc]⟩

theorem join_text (a b : Node) (v w : String) (first : a.kind = .text v) (second : b.kind = .text w)
    (meet : a.meets b = true) : (a.join b).kind = .text (v ++ w) := by
  obtain ⟨v', s, below, w', t, more, rfl, rfl, _⟩ := meets_texts a b meet
  cases first
  cases second
  rfl

section

variable (before after : List Node) (v w : String) (s t : Span)

-- The row of nodes up to a text: the last node ends in it, and no text behind it can change the
-- others.
theorem text_behind :
    ∃ left last lead, joined (before ++ [leaf (.text v) (some s)]) = left ++ [last] ∧
      last.kind = .text (lead ++ v) ∧ (∀ n, last.meets n = (leaf (.text v) (some s)).meets n) ∧
      ∀ rest, joined (before ++ leaf (.text v) (some s) :: rest) =
        left ++ (rest.foldl putBehind [last]).reverse := by
  obtain ⟨last, others, lead, put, ends, meets⟩ := put_text (before.foldl putBehind []) v s
  have row : ∀ rest, joined (before ++ leaf (.text v) (some s) :: rest) =
      others.reverse ++ (rest.foldl putBehind [last]).reverse := by
    intro rest
    rw [joined, List.foldl_append, List.foldl_cons, put, put_all_behind, List.reverse_append]
  exact ⟨others.reverse, last, lead, row [], ends, meets, row⟩

theorem texts_shared (meet : s.stop.offset = t.start.offset) :
    ∃ left last lead n right more,
      joined (before ++ [leaf (.text v) (some s)]) = left ++ [last] ∧
      last.kind = .text (lead ++ v) ∧
      joined (before ++ leaf (.text v) (some s) :: leaf (.text w) (some t) :: after) =
        left ++ n :: right ∧
      n.kind = .text (lead ++ v ++ w ++ more) := by
  obtain ⟨left, last, lead, row, ends, meets, behind⟩ := text_behind before v s
  have touch : last.meets (leaf (.text w) (some t)) = true := (meets _).trans (decide_eq_true meet)
  obtain ⟨more, n, rest, put, text⟩ :=
    put_behind_text after _ _ (join_text last _ _ w ends rfl touch)
  refine ⟨left, last, lead, n, rest.reverse, more, row, ends, ?_, text⟩
  rw [behind, List.foldl_cons, putBehind, if_pos touch, put, List.reverse_append]
  rfl

theorem texts_parted (apart : s.stop.offset ≠ t.start.offset) :
    ∃ left last lead n right more,
      joined (before ++ [leaf (.text v) (some s)]) = left ++ [last] ∧
      last.kind = .text (lead ++ v) ∧
      joined (before ++ leaf (.text v) (some s) :: leaf (.text w) (some t) :: after) =
        left ++ last :: n :: right ∧
      n.kind = .text (w ++ more) := by
  obtain ⟨left, last, lead, row, ends, meets, behind⟩ := text_behind before v s
  have touch : ¬ last.meets (leaf (.text w) (some t)) = true := by
    rw [meets]
    exact fun meet => apart (of_decide_eq_true meet)
  obtain ⟨more, n, rest, put, text⟩ :=
    put_behind_text after (leaf (.text w) (some t)) w rfl
  refine ⟨left, last, lead, n, rest.reverse, more, row, ends, ?_, text⟩
  rw [behind, List.foldl_cons, putBehind, if_neg touch, put_all_behind, put]
  simp

end

def meetings : List Node → Nat
  | [] => 0
  | [_] => 0
  | n :: next :: rest => (if n.meets next then 1 else 0) + meetings (next :: rest)

theorem put_all_length (nodes : List Node) (n last : Node) (others : List Node)
    (ends : ∀ next, last.meets next = n.meets next) :
    (nodes.foldl putBehind (last :: others)).length + meetings (n :: nodes) =
      others.length + 1 + nodes.length := by
  induction nodes generalizing n last others with
  | nil => rfl
  | cons next rest ih =>
      rw [List.foldl_cons, putBehind, ends next, meetings]
      cases meet : n.meets next with
      | false =>
          have more := ih next next (last :: others) fun _ => rfl
          simp only [Bool.false_eq_true, if_false, List.length_cons] at more ⊢
          omega
      | true =>
          have more := ih next (last.join next) others
            fun q => join_meets last next q ((ends next).trans meet)
          simp only [if_true, List.length_cons]
          omega

theorem joined_length (nodes : List Node) :
    (joined nodes).length + meetings nodes = nodes.length := by
  cases nodes with
  | nil => rfl
  | cons n rest =>
      have row := put_all_length rest n n [] fun _ => rfl
      rw [joined, List.length_reverse, List.foldl_cons, putBehind, row, List.length_cons,
        List.length_nil]
      omega

theorem other_joined (nodes : List Node) (n : Node) (other : n.kind.isText = false)
    (listed : n ∈ nodes) : n ∈ joined nodes := by
  let read : Node → List Node := fun m => if m.kind.isText then [] else [m]
  have kept : (joined nodes).flatMap read = nodes.flatMap read := by
    refine joined_reads read nodes fun m _ a meet => ?_
    obtain ⟨v, s, below, w, t, more, rfl, rfl, _⟩ := meets_texts a m meet
    rfl
  have read_here : n ∈ nodes.flatMap read := List.mem_flatMap.mpr ⟨n, listed, by simp [read, other]⟩
  rw [← kept] at read_here
  obtain ⟨m, inside, same⟩ := List.mem_flatMap.mp read_here
  cases text : m.kind.isText with
  | true => simp [read, text] at same
  | false =>
      have own : n = m := by simpa [read, text] using same
      rw [own]
      exact inside

-- Two values next to each other in one text node, or in two, between what is read before them and
-- after them.
def Together (children : List Node) (before : List TreeMark) (v w : String)
    (after : List TreeMark) : Prop :=
  ∃ left n right lead more, children = left ++ n :: right ∧
    n.kind = .text (lead ++ v ++ w ++ more) ∧ marksOf left ++ TreeMark.letters lead = before ∧
    TreeMark.letters more ++ marksOf right = after

def Parted (children : List Node) (before : List TreeMark) (v w : String)
    (after : List TreeMark) : Prop :=
  ∃ left m n right lead more, children = left ++ m :: n :: right ∧ m.kind = .text (lead ++ v) ∧
    n.kind = .text (w ++ more) ∧ marksOf left ++ TreeMark.letters lead = before ∧
    TreeMark.letters more ++ marksOf right = after

end Node

namespace Markdown

open Node (joined Together Parted)
open Passage (nodesOf eventsOf marksOf)

namespace Passage

section

variable (index : LineIndex)

theorem nodes_append (ps qs : List Passage) :
    nodesOf index (ps ++ qs) = nodesOf index ps ++ nodesOf index qs := by
  induction ps with
  | nil => rfl
  | cons p rest ih => rw [List.cons_append, nodesOf, nodesOf, ih, List.cons_append]

theorem marks_append (ps qs : List Passage) :
    marksOf index (ps ++ qs) = marksOf index ps ++ marksOf index qs := by
  induction ps with
  | nil => rfl
  | cons p rest ih => rw [List.cons_append, marksOf, marksOf, ih, List.append_assoc]

-- The constructs that stay open around their content, the document among them.
inductive Holds (ps : List Passage) : NodeKind → Span → List Passage → Prop where
  | document : Holds ps .root ⟨index.point 0, index.point index.size⟩ ps
  | inside (kind : NodeKind) (span : Span) (around content : List Passage) (first last : Event)
      (construct : Construct) (enters : first.body = .enter construct)
      (passes : construct.isLiteral = false) (leaves : last.body = .leave)
      (outer : Holds ps kind span around)
      (listed : .around first last construct content enters passes leaves ∈ around) :
      Holds ps construct.nodeKind (index.span first.start first.stop) content

theorem nodes_length (ps : List Passage) : (nodesOf index ps).length = ps.length := by
  induction ps with
  | nil => rfl
  | cons p rest ih => rw [nodesOf, List.length_cons, List.length_cons, ih]

theorem node_listed (ps : List Passage) (p : Passage) (listed : p ∈ ps) :
    p.node index ∈ nodesOf index ps := by
  induction ps with
  | nil => cases listed
  | cons q rest ih =>
      rcases List.mem_cons.mp listed with rfl | later
      · exact List.mem_cons_self
      · exact List.mem_cons_of_mem _ (ih later)

theorem neighbours_marks (before after : List Passage) (first second : Event) (v w : String)
    (one : first.body.leaf? = some (.text v)) (two : second.body.leaf? = some (.text w)) :
    marksOf index (before ++ .single first (.text v) one :: .single second (.text w) two :: after) =
      marksOf index before ++
        (TreeMark.letters v ++ (TreeMark.letters w ++ marksOf index after)) := by
  rw [marks_append]
  rfl

theorem lead_marks (before : List Passage) (first : Event) (v : String)
    (one : first.body.leaf? = some (.text v)) (left : List Node) (last : Node) (lead : String)
    (row : joined (nodesOf index before ++
      [.leaf (.text v) (some (index.span first.start first.stop))]) = left ++ [last])
    (ends : last.kind = .text (lead ++ v)) :
    Node.marksOf left ++ TreeMark.letters lead = marksOf index before := by
  have alone : Node.marksOf [last] = TreeMark.letters lead ++ TreeMark.letters v := by
    rw [Node.marksOf, Node.marksOf, Node.text_marks last _ ends, List.append_nil,
      TreeMark.letters_append]
  have text : marksOf index [.single first (.text v) one] = TreeMark.letters v := List.append_nil _
  have whole :
      joined (nodesOf index (before ++ [.single first (.text v) one])) = left ++ [last] := by
    rw [nodes_append]
    exact row
  have read := joined_marks index (before ++ [.single first (.text v) one])
  rw [nodes_marks, whole, Node.marks_of_append, alone, marks_append, text,
    ← List.append_assoc] at read
  exact List.append_cancel_right read

theorem neighbours_joined (before after : List Passage) (first second : Event) (v w : String)
    (one : first.body.leaf? = some (.text v)) (two : second.body.leaf? = some (.text w))
    (row : List Node)
    (whole : row = joined (nodesOf index (before ++ .single first (.text v) one ::
      .single second (.text w) two :: after))) :
    ((index.span first.start first.stop).stop.offset =
        (index.span second.start second.stop).start.offset →
      Together row (marksOf index before) v w (marksOf index after)) ∧
    ((index.span first.start first.stop).stop.offset ≠
        (index.span second.start second.stop).start.offset →
      Parted row (marksOf index before) v w (marksOf index after)) := by
  have read : Node.marksOf row =
      marksOf index before ++
        (TreeMark.letters v ++ (TreeMark.letters w ++ marksOf index after)) := by
    rw [whole, joined_marks, nodes_marks, neighbours_marks]
  rw [nodes_append] at whole
  constructor
  · intro meet
    obtain ⟨left, last, lead, n, right, more, start, ends, nodes, text⟩ :=
      Node.texts_shared (nodesOf index before) (nodesOf index after) v w _ _ meet
    have ahead := lead_marks index before first v one left last lead start ends
    have here := whole.trans nodes
    refine ⟨left, n, right, lead, more, here, text, ahead, ?_⟩
    rw [here, Node.marks_of_append, Node.marksOf, Node.text_marks n _ text, ← ahead] at read
    simpa using read
  · intro apart
    obtain ⟨left, last, lead, n, right, more, start, ends, nodes, text⟩ :=
      Node.texts_parted (nodesOf index before) (nodesOf index after) v w _ _ apart
    have ahead := lead_marks index before first v one left last lead start ends
    have here := whole.trans nodes
    refine ⟨left, last, n, right, lead, more, here, ends, text, ahead, ?_⟩
    rw [here, Node.marks_of_append, Node.marksOf, Node.marksOf, Node.text_marks last _ ends,
      Node.text_marks n _ text, ← ahead] at read
    simpa using read

end

theorem holds_node (text : List Char) (ps : List Passage) (kind : NodeKind) (span : Span)
    (content : List Passage) (holds : Holds (LineIndex.ofText text) ps kind span content) :
    ⟨kind, some span, joined (nodesOf (LineIndex.ofText text) content)⟩ ∈
      (treeOfEvents text (eventsOf ps)).preorder := by
  induction holds with
  | document =>
      rw [tree_of_passages]
      exact Node.self_in_preorder _
  | inside kind span around content first last construct enters passes leaves outer listed ih =>
      have here := node_listed (LineIndex.ofText text) around _ listed
      have kept := Node.other_joined _ _ (construct_no_text construct) here
      obtain ⟨i, child⟩ := List.mem_iff_getElem?.mp kept
      have below := Node.child_in_preorder _ i _ child
      exact Node.preorder_within _ _ ih _ (List.mem_cons_of_mem _ below)

end Passage

open Text LineIndex

theorem contiguous_spans (read source rest : List Char) (start stop : Nat)
    (contiguous : start = byteLength read + byteLength source) (ordered : start ≤ stop) :
    ((ofText (read ++ (source ++ rest))).span (byteLength read)
        (byteLength read + byteLength source)).stop.offset =
      ((ofText (read ++ (source ++ rest))).span start stop).start.offset ↔
    trimEnd source = source := by
  have size : (ofText (read ++ (source ++ rest))).size =
      byteLength read + (byteLength source + byteLength rest) := by simp
  have second : ((ofText (read ++ (source ++ rest))).span start stop).start.offset =
      byteLength read + byteLength source := by
    show min (min start (min stop _)) _ = _
    omega
  have first : ((ofText (read ++ (source ++ rest))).span (byteLength read)
      (byteLength read + byteLength source)).stop.offset =
        byteLength read + byteLength (trimEnd source) := by
    simp [span_reads]
  rw [first, second]
  constructor
  · intro same
    obtain ⟨blanks, trimmed⟩ := trim_end_prefix source
    have bytes := byte_length_append (trimEnd source) blanks
    rw [trimmed] at bytes
    cases blanks with
    | nil => exact (List.append_nil _).symm.trans trimmed
    | cons c more =>
        have width := byte_length_positive c more
        omega
  · intro same
    rw [same]

theorem contiguous_texts (text : List Char) (ps before after : List Passage) (kind : NodeKind)
    (span : Span) (first second : Event) (v w : String)
    (one : first.body.leaf? = some (.text v)) (two : second.body.leaf? = some (.text w))
    (holds : Passage.Holds (ofText text) ps kind span
      (before ++ .single first (.text v) one :: .single second (.text w) two :: after))
    (read source rest : List Char) (whole : text = read ++ (source ++ rest))
    (starts : first.start = byteLength read)
    (stops : first.stop = byteLength read + byteLength source)
    (contiguous : second.start = first.stop) (ordered : second.start ≤ second.stop) :
    ∃ n ∈ (treeOfEvents text (eventsOf ps)).preorder, n.kind = kind ∧ n.span = some span ∧
      (trimEnd source = source →
        Together n.children (marksOf (ofText text) before) v w (marksOf (ofText text) after)) ∧
      (trimEnd source ≠ source →
        Parted n.children (marksOf (ofText text) before) v w (marksOf (ofText text) after)) ∧
      n.children.length + Node.meetings (nodesOf (ofText text)
          (before ++ .single first (.text v) one :: .single second (.text w) two :: after)) =
        before.length + 2 + after.length := by
  have here := Passage.holds_node text ps kind span _ holds
  have neighbours :=
    Passage.neighbours_joined (ofText text) before after first second v w one two _ rfl
  have trimmed := contiguous_spans read source rest second.start second.stop
    (contiguous.trans stops) ordered
  rw [← whole, ← stops, ← starts] at trimmed
  refine ⟨_, here, rfl, rfl, ?_, ?_, ?_⟩
  · intro solid
    exact neighbours.1 (trimmed.mpr solid)
  · intro blank
    exact neighbours.2 fun same => blank (trimmed.mp same)
  · have count := Node.joined_length (nodesOf (ofText text)
      (before ++ .single first (.text v) one :: .single second (.text w) two :: after))
    rw [Passage.nodes_length] at count
    rw [count, List.length_append, List.length_cons, List.length_cons]
    omega

theorem contiguous_texts_line :
    ∃ n ∈ (treeOfEvents ['a', '\n', 'b'] [⟨.enter .paragraph, 0, 3⟩, ⟨.text "a", 0, 1⟩,
        ⟨.softBreak, 1, 2⟩, ⟨.text "b", 2, 3⟩, ⟨.leave, 0, 3⟩]).preorder,
      n.kind = .paragraph ∧ Together n.children [] "a" "\n" [.letter 'b'] := by
  let b : Passage := .single ⟨.text "b", 2, 3⟩ (.text "b") rfl
  let line : List Passage :=
    [.single ⟨.text "a", 0, 1⟩ (.text "a") rfl, .single ⟨.softBreak, 1, 2⟩ (.text "\n") rfl, b]
  obtain ⟨n, inside, kind, _, shared, _⟩ := contiguous_texts ['a', '\n', 'b']
    [.around ⟨.enter .paragraph, 0, 3⟩ ⟨.leave, 0, 3⟩ .paragraph line rfl rfl rfl] [] [b]
    .paragraph ((ofText ['a', '\n', 'b']).span 0 3) ⟨.text "a", 0, 1⟩ ⟨.softBreak, 1, 2⟩ "a" "\n"
    rfl rfl (.inside .root _ _ line ⟨.enter .paragraph, 0, 3⟩ ⟨.leave, 0, 3⟩ .paragraph rfl rfl rfl
      .document (List.mem_singleton.mpr rfl))
    [] ['a'] ['\n', 'b'] rfl rfl rfl rfl (by decide)
  exact ⟨n, inside, kind, shared (by decide)⟩

theorem contiguous_lines_parted :
    events ['a', '\n', 'b'] =
        [⟨.enter .paragraph, 0, 3⟩, ⟨.text "a", 0, 1⟩, ⟨.softBreak, 1, 2⟩, ⟨.text "b", 2, 3⟩,
          ⟨.leave, 0, 3⟩] ∧
      (parse "a\nb").children.map (fun n => n.children.map Node.kind) =
        [[.text "a\n", .text "b"]] := by
  decide +kernel

end Markdown

end Proofread
