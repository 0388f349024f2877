import Proofread.Proofs.FailedPass
import Proofread.Proofs.Replay

set_option autoImplicit false

namespace Proofread.Lint

def Says (n : Node) (span : Span) (said : Comment) : Prop :=
  n.span = some span ∧ ∃ value, n.kind = .html value ∧ Comment.ofHtml value = said

def Keyword.switching : Bool → Keyword
  | true => .enable
  | false => .disable

def Toggle.Of (n : Node) (t : Toggle) : Prop :=
  ∃ span, Says n span (.directive ⟨.switching t.enabled, t.rules⟩) ∧ span.stop = t.place

def Ignored.Of (n : Node) (next : Option Node) (i : Ignored) : Prop :=
  ∃ span covered, Says n span (.directive ⟨.ignore, i.rules⟩) ∧ next = some covered ∧
    covered.span = some i.span

-- What is not HTML is read as ordinary, so that any other reading tells the kind of the node.
theorem says_iff (n : Node) (span : Span) (said : Comment) (special : said ≠ .ordinary) :
    Says n span said ↔ n.span = some span ∧ Comment.ofNode n = said := by
  rw [Says, and_congr_right_iff]
  intro _
  obtain ⟨kind, place, children⟩ := n
  cases kind with
  | html value => simp [Comment.ofNode]
  | _ => simp [Comment.ofNode, special.symm]

theorem says_directive (n : Node) (span : Span) (d : Directive) :
    Says n span (.directive d) ↔ n.span = some span ∧ Comment.ofNode n = .directive d :=
  says_iff n span _ nofun

theorem says_unknown (n : Node) (span : Span) (word : String) :
    Says n span (.unknownKeyword word) ↔
      n.span = some span ∧ Comment.ofNode n = .unknownKeyword word :=
  says_iff n span _ nofun

theorem faulty_iff (n : Node) : Faulty n ↔ ∃ span word, Says n span (.unknownKeyword word) := by
  simp only [says_unknown, Faulty, Option.isSome_iff_exists, exists_and_left, exists_and_right]

theorem toggle_of_node (n : Node) (t : Toggle) : Toggle.ofNode? n = some t ↔ Toggle.Of n t := by
  obtain ⟨place, names, enabled⟩ := t
  simp only [Toggle.Of, says_directive, Toggle.ofNode?]
  cases n.span with
  | none => simp
  | some span =>
      cases Comment.ofNode n with
      | ordinary => simp
      | unknownKeyword word => simp
      | directive d =>
          obtain ⟨keyword, rules⟩ := d
          constructor
          · intro read
            cases keyword <;> cases read <;> exact ⟨span, ⟨rfl, rfl⟩, rfl⟩
          · rintro ⟨own, ⟨placed, said⟩, rfl⟩
            cases placed
            cases keyword <;> cases enabled <;> cases said <;> rfl

theorem ignored_of_sibling (n : Node) (next : Option Node) (i : Ignored) :
    Ignored.ofPair? (n, next) = some i ↔ Ignored.Of n next i := by
  rw [ignored_of_pair]
  simp only [Ignored.Of, says_directive, Option.isSome_iff_exists]
  constructor
  · rintro ⟨covered, after, ⟨span, placed⟩, directive, range⟩
    exact ⟨span, covered, ⟨placed, directive⟩, after, range⟩
  · rintro ⟨span, covered, ⟨placed, directive⟩, after, range⟩
    exact ⟨covered, after, ⟨span, placed⟩, directive, range⟩

namespace Controls

theorem collect_fails (tree : Node) :
    (∃ e, collect tree = .error e) ↔ ∃ n ∈ Node.preorderList tree.children, Faulty n := by
  have succeeds := collect_succeeds tree
  cases collected : collect tree with
  | error e =>
      rw [collected] at succeeds
      have faults : ¬ ∀ n ∈ Node.preorderList tree.children, ¬ Faulty n :=
        fun understood => by cases (succeeds.mpr understood).choose_spec
      exact ⟨fun _ => by
        simpa only [Classical.not_forall, Classical.not_not, exists_prop] using faults,
        fun _ => ⟨e, rfl⟩⟩
  | ok c =>
      have understood := succeeds.mp ⟨c, collected⟩
      constructor
      · rintro ⟨e, failed⟩
        cases failed
      · rintro ⟨n, below, faulty⟩
        exact absurd faulty (understood n below)

theorem collect_error (tree : Node) (e : DirectiveError) :
    collect tree = .error e ↔
      ∃ word, FirstFaulty tree e.span word ∧ e.reason = unknownKeywordReason word := by
  constructor
  · intro failed
    rcases first_faulty_or_none tree with understood | ⟨place, word, first⟩
    · obtain ⟨c, collected⟩ := (collect_succeeds tree).mpr understood
      rw [failed] at collected
      cases collected
    · obtain ⟨before, n, after, order, fine, placed, unknown⟩ := first
      have stops := collect_stops tree before after n place word order fine placed unknown
      rw [failed] at stops
      cases stops
      exact ⟨word, ⟨before, n, after, order, fine, placed, unknown⟩, rfl⟩
  · rintro ⟨word, ⟨before, n, after, order, fine, placed, unknown⟩, reason⟩
    rw [collect_stops tree before after n e.span word order fine placed unknown, ← reason]

theorem collect_empty (tree : Node) (c : Controls) (collected : collect tree = .ok c) :
    c.isEmpty = true ↔
      (∀ n ∈ Node.preorderList tree.children, ∀ t, ¬ Toggle.Of n t) ∧
        ∀ n next, Node.Adjacent tree.preorder n next → ∀ i, ¬ Ignored.Of n next i := by
  rw [isEmpty, Bool.and_eq_true, List.isEmpty_iff, List.isEmpty_iff,
    collect_toggles tree c collected, collect_ignored tree c collected,
    List.filterMap_eq_nil_iff, List.filterMap_eq_nil_iff]
  refine and_congr ?_ ?_
  · simp only [Option.eq_none_iff_forall_ne_some, ne_eq, toggle_of_node]
  · simp only [Prod.forall, Node.mem_descendants, Option.eq_none_iff_forall_ne_some, ne_eq,
      ignored_of_sibling]

theorem apply_empty (tree : Node) (c : Controls) (collected : collect tree = .ok c)
    (nothing : c.isEmpty = true) (file : LintFile) : apply tree file = .ok file := by
  rw [apply, collected]
  simp only [Except.map, if_pos nothing]

end Controls

-- Nodes below the root are listed with repetitions, so that the lists have one item per such node.
theorem directives_collected_exactly (tree : Node) :
    ((∃ e, Controls.collect tree = .error e) ↔
      ∃ n ∈ Node.preorderList tree.children, ∃ span word, Says n span (.unknownKeyword word)) ∧
    (∀ e, Controls.collect tree = .error e ↔
      ∃ before n after word, Node.preorderList tree.children = before ++ n :: after ∧
        (∀ m ∈ before, ∀ span other, ¬ Says m span (.unknownKeyword other)) ∧
        Says n e.span (.unknownKeyword word) ∧ e.reason = unknownKeywordReason word) ∧
    (∀ c, Controls.collect tree = .ok c →
      c.toggles = (Node.preorderList tree.children).filterMap Toggle.ofNode? ∧
      c.ignored = tree.descendants.filterMap Ignored.ofPair? ∧
      (c.isEmpty = true ↔
        (∀ n ∈ Node.preorderList tree.children, ∀ t, ¬ Toggle.Of n t) ∧
          ∀ n next, Node.Adjacent tree.preorder n next → ∀ i, ¬ Ignored.Of n next i) ∧
      (c.isEmpty = true → (∀ message, c.allows message = true) ∧
        ∀ file, Controls.apply tree file = .ok file)) ∧
    (∀ n t, Toggle.ofNode? n = some t ↔ Toggle.Of n t) ∧
    (∀ n next i, Ignored.ofPair? (n, next) = some i ↔ Ignored.Of n next i) ∧
    (tree.descendants.map Prod.fst = Node.preorderList tree.children ∧
      ∀ n next, (n, next) ∈ tree.descendants ↔ Node.Adjacent tree.preorder n next) ∧
    (∀ n : Node, n.span = none →
      (∀ span said, ¬ Says n span said) ∧ Toggle.ofNode? n = none ∧
        ∀ next, Ignored.ofPair? (n, next) = none) ∧
    ∀ kind span, Controls.collect ⟨kind, span, tree.children⟩ = Controls.collect tree := by
  refine ⟨?_, ?_, ?_, toggle_of_node, ignored_of_sibling,
    ⟨tree.descendants_nodes, tree.mem_descendants⟩, ?_, ?_⟩
  · simp only [Controls.collect_fails, faulty_iff]
  · intro e
    rw [Controls.collect_error]
    constructor
    · rintro ⟨word, ⟨before, n, after, order, fine, placed, unknown⟩, reason⟩
      refine ⟨before, n, after, word, order, ?_, (says_unknown n e.span word).mpr ⟨placed, unknown⟩,
        reason⟩
      intro m listed span other said
      exact fine m listed ((faulty_iff m).mpr ⟨span, other, said⟩)
    · rintro ⟨before, n, after, word, order, fine, said, reason⟩
      obtain ⟨placed, unknown⟩ := (says_unknown n e.span word).mp said
      refine ⟨word, ⟨before, n, after, order, ?_, placed, unknown⟩, reason⟩
      intro m listed faulty
      obtain ⟨span, other, said'⟩ := (faulty_iff m).mp faulty
      exact fine m listed span other said'
  · intro c collected
    exact ⟨Controls.collect_toggles tree c collected, Controls.collect_ignored tree c collected,
      Controls.collect_empty tree c collected, fun nothing =>
        ⟨Controls.empty_allows c nothing, Controls.apply_empty tree c collected nothing⟩⟩
  · intro n unplaced
    refine ⟨fun span said spoken => ?_, ?_, fun next => ?_⟩
    · rw [Says, unplaced] at spoken
      cases spoken.1
    · rw [Toggle.ofNode?, unplaced]
    · rw [Ignored.ofPair?, unplaced]
  · intro kind span
    cases tree
    rfl

def quotedComments : Node :=
  ⟨.root, some ⟨⟨1, 1, 0⟩, ⟨7, 20, 98⟩⟩, [
    ⟨.blockquote, some ⟨⟨1, 1, 0⟩, ⟨3, 4, 47⟩⟩, [
      .leaf (.html "<!--lint ignore no-tabs-->") (some ⟨⟨1, 3, 2⟩, ⟨1, 29, 28⟩⟩),
      .leaf .paragraph (some ⟨⟨2, 3, 31⟩, ⟨2, 5, 33⟩⟩),
      .leaf (.html "<!--lint disable-->") none]⟩,
    .leaf (.html "<!--lint enable no-tabs-->") (some ⟨⟨5, 1, 50⟩, ⟨5, 27, 76⟩⟩),
    .leaf (.html "<!--lint ignore-->") (some ⟨⟨7, 1, 78⟩, ⟨7, 19, 96⟩⟩)]⟩

def mutedComments : Node :=
  ⟨.root, none, [
    ⟨.blockquote, none, [.leaf (.html "<!--lint mute-->") (some ⟨⟨1, 3, 2⟩, ⟨1, 19, 18⟩⟩)]⟩,
    .leaf (.html "<!--lint hush-->") (some ⟨⟨3, 1, 20⟩, ⟨3, 17, 36⟩⟩)]⟩

theorem directives_collected_exactly_quoted :
    (∃ c, Controls.collect quotedComments = .ok c ∧
      c.toggles = [⟨⟨5, 27, 76⟩, ["no-tabs"], true⟩] ∧
      c.ignored = [⟨⟨⟨2, 3, 31⟩, ⟨2, 5, 33⟩⟩, ["no-tabs"]⟩]) ∧
    Controls.collect mutedComments =
      .error ⟨unknownKeywordReason "mute", ⟨⟨1, 3, 2⟩, ⟨1, 19, 18⟩⟩⟩ := by
  constructor
  · obtain ⟨toggles, ignored, _⟩ := (directives_collected_exactly quotedComments).2.2.1 _ rfl
    exact ⟨_, rfl, toggles, ignored⟩
  · refine ((directives_collected_exactly mutedComments).2.1 _).mpr
      ⟨[⟨.blockquote, none, _⟩], _, _, "mute", rfl, ?_, ⟨rfl, _, rfl, rfl⟩, rfl⟩
    intro m listed span word said
    rw [List.mem_singleton.mp listed] at said
    cases said.1

end Proofread.Lint
