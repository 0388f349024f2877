import Proofread.Lint.Controls
import Proofread.Proofs.Siblings

set_option autoImplicit false

namespace Proofread.Lint

def Comment.ofNode (n : Node) : Comment :=
  match n.kind with
  | .html value => .ofHtml value
  | _ => .ordinary

def Faulty (n : Node) : Prop :=
  n.span.isSome ∧ ∃ word, Comment.ofNode n = .unknownKeyword word

namespace Toggle

def ofNode? (n : Node) : Option Toggle :=
  match n.span, Comment.ofNode n with
  | some place, .directive ⟨.enable, rules⟩ => some ⟨place.stop, rules, true⟩
  | some place, .directive ⟨.disable, rules⟩ => some ⟨place.stop, rules, false⟩
  | _, _ => none

end Toggle

namespace Ignored

def ofPair? (pair : Node × Option Node) : Option Ignored :=
  match pair.1.span, Comment.ofNode pair.1, pair.2.bind Node.span with
  | some _, .directive ⟨.ignore, rules⟩, some covered => some ⟨covered, rules⟩
  | _, _, _ => none

end Ignored

namespace Controls

theorem of_node_comment (n : Node) (next : Option Span) :
    ofNode n.kind n.span next =
      match n.span, Comment.ofNode n with
      | some place, .directive d => .ok (ofDirective d place next)
      | some place, .unknownKeyword word => .error ⟨unknownKeywordReason word, place⟩
      | _, _ => .ok empty := by
  obtain ⟨kind, span, children⟩ := n
  cases span with
  | none => cases kind <;> rfl
  | some place =>
      cases kind with
      | html value =>
          simp only [ofNode, Comment.ofNode]
          cases Comment.ofHtml value <;> rfl
      | _ => rfl

theorem of_node_fails (n : Node) (next : Option Span) :
    (∃ e, ofNode n.kind n.span next = .error e) ↔ Faulty n := by
  rw [of_node_comment]
  simp only [Faulty]
  cases n.span with
  | none => simp
  | some place => cases Comment.ofNode n <;> simp

theorem of_node_contents (n : Node) (next : Option Node) (own : Controls)
    (understood : ofNode n.kind n.span (next.bind Node.span) = .ok own) :
    own.toggles = (Toggle.ofNode? n).toList ∧ own.ignored = (Ignored.ofPair? (n, next)).toList := by
  rw [of_node_comment] at understood
  simp only [Toggle.ofNode?, Ignored.ofPair?]
  cases placed : n.span with
  | none =>
      rw [placed] at understood
      cases understood
      exact ⟨rfl, rfl⟩
  | some place =>
      rw [placed] at understood
      cases read : Comment.ofNode n with
      | ordinary =>
          rw [read] at understood
          cases understood
          exact ⟨rfl, rfl⟩
      | unknownKeyword word =>
          rw [read] at understood
          cases understood
      | directive d =>
          rw [read] at understood
          cases understood
          obtain ⟨keyword, rules⟩ := d
          cases keyword with
          | enable => exact ⟨rfl, rfl⟩
          | disable => exact ⟨rfl, rfl⟩
          | ignore => cases next.bind Node.span <;> exact ⟨rfl, rfl⟩

-- The controls of nodes and the siblings after them, read in order up to the first fault.
def gather : List (Node × Option Node) → Except DirectiveError Controls
  | [] => .ok empty
  | (n, next) :: rest =>
      match ofNode n.kind n.span (next.bind Node.span) with
      | .error e => .error e
      | .ok own => (gather rest).map own.append

theorem gather_append (a b : List (Node × Option Node)) :
    gather (a ++ b) =
      match gather a with
      | .error e => .error e
      | .ok c => (gather b).map c.append := by
  induction a with
  | nil =>
      cases gathered : gather b with
      | error e => simp [gathered, gather, Except.map]
      | ok c => simp [gathered, gather, Except.map]
  | cons pair rest ih =>
      obtain ⟨n, next⟩ := pair
      rw [List.cons_append, gather, gather, ih]
      cases ofNode n.kind n.span (next.bind Node.span) with
      | error e => rfl
      | ok own =>
          cases gather rest with
          | error e => rfl
          | ok c =>
              cases gather b with
              | error e => rfl
              | ok d => simp [Except.map]

mutual
theorem collect_gathers (tree : Node) : collect tree = gather tree.descendants := by
  cases tree with
  | mk kind span children => exact collect_siblings_gathers children
theorem collect_siblings_gathers (nodes : List Node) :
    collectSiblings nodes = gather (Node.descendantsList nodes) := by
  cases nodes with
  | nil => rfl
  | cons head rest =>
      rw [collectSiblings, Node.descendantsList, gather, gather_append, collect_gathers head,
        collect_siblings_gathers rest]
      cases ofNode head.kind head.span (rest.head?.bind Node.span) with
      | error e => rfl
      | ok own =>
          cases gather head.descendants with
          | error e => rfl
          | ok below => cases gather (Node.descendantsList rest) <;> rfl
end

theorem gather_contents (pairs : List (Node × Option Node)) (c : Controls)
    (gathered : gather pairs = .ok c) :
    c.toggles = (pairs.map Prod.fst).filterMap Toggle.ofNode? ∧
      c.ignored = pairs.filterMap Ignored.ofPair? := by
  induction pairs generalizing c with
  | nil =>
      cases gathered
      exact ⟨rfl, rfl⟩
  | cons pair rest ih =>
      obtain ⟨n, next⟩ := pair
      rw [gather] at gathered
      cases understood : ofNode n.kind n.span (next.bind Node.span) with
      | error e =>
          rw [understood] at gathered
          cases gathered
      | ok own =>
          rw [understood] at gathered
          cases after : gather rest with
          | error e =>
              rw [after] at gathered
              cases gathered
          | ok d =>
              rw [after] at gathered
              cases gathered
              obtain ⟨ownToggles, ownIgnored⟩ := of_node_contents n next own understood
              obtain ⟨restToggles, restIgnored⟩ := ih d after
              simp only [append, ownToggles, ownIgnored, restToggles, restIgnored, List.map_cons,
                List.filterMap_cons]
              constructor
              · cases Toggle.ofNode? n <;> rfl
              · cases Ignored.ofPair? (n, next) <;> rfl

theorem gather_succeeds (pairs : List (Node × Option Node)) :
    (∃ c, gather pairs = .ok c) ↔ ∀ n ∈ pairs.map Prod.fst, ¬ Faulty n := by
  induction pairs with
  | nil => simp [gather]
  | cons pair rest ih =>
      obtain ⟨n, next⟩ := pair
      rw [List.map_cons, List.forall_mem_cons, ← ih, ← of_node_fails n (next.bind Node.span),
        gather]
      cases ofNode n.kind n.span (next.bind Node.span) with
      | error e => simp
      | ok own => cases gather rest <;> simp [Except.map]

theorem collect_toggles (tree : Node) (c : Controls) (collected : collect tree = .ok c) :
    c.toggles = (Node.preorderList tree.children).filterMap Toggle.ofNode? := by
  rw [collect_gathers] at collected
  rw [← Node.descendants_nodes]
  exact (gather_contents _ c collected).1

theorem collect_ignored (tree : Node) (c : Controls) (collected : collect tree = .ok c) :
    c.ignored = tree.descendants.filterMap Ignored.ofPair? := by
  rw [collect_gathers] at collected
  exact (gather_contents _ c collected).2

theorem collect_succeeds (tree : Node) :
    (∃ c, collect tree = .ok c) ↔ ∀ n ∈ Node.preorderList tree.children, ¬ Faulty n := by
  rw [collect_gathers, gather_succeeds, Node.descendants_nodes]

theorem collect_without_spans (tree : Node) : ∃ c, collect tree.withoutSpans = .ok c := by
  rw [collect_succeeds]
  intro n below faulty
  rw [Faulty, Node.without_spans_below tree n below] at faulty
  exact absurd faulty.1 (by decide)

theorem collect_nothing (tree : Node) : collect tree.withoutSpans = .ok empty := by
  obtain ⟨c, collected⟩ := collect_without_spans tree
  have toggles : c.toggles = [] := by
    rw [collect_toggles _ c collected, List.filterMap_eq_nil_iff]
    intro n below
    rw [Toggle.ofNode?, Node.without_spans_below tree n below]
  have ignored : c.ignored = [] := by
    rw [collect_ignored _ c collected, List.filterMap_eq_nil_iff]
    intro pair listed
    have below : pair.1 ∈ Node.preorderList tree.withoutSpans.children := by
      rw [← Node.descendants_nodes]
      exact List.mem_map_of_mem listed
    rw [Ignored.ofPair?, Node.without_spans_below tree pair.1 below]
  obtain ⟨own, covered⟩ := c
  rw [collected]
  simp only at toggles ignored
  rw [toggles, ignored]
  rfl

theorem empty_allows (c : Controls) (empty : c.isEmpty = true) (message : Message) :
    c.allows message = true := by
  rw [isEmpty, Bool.and_eq_true, List.isEmpty_iff, List.isEmpty_iff] at empty
  rw [allows, empty.1, empty.2]
  cases message.start? <;> rfl

theorem apply_filters (tree : Node) (file : LintFile) :
    apply tree file = (collect tree).map fun c =>
      { file with messages := file.messages.filter c.allows } := by
  rw [apply]
  cases collect tree with
  | error e => rfl
  | ok c =>
      by_cases nothing : c.isEmpty = true
      · have all : file.messages.filter c.allows = file.messages :=
          List.filter_eq_self.mpr fun message _ => empty_allows c nothing message
        simp only [Except.map, nothing, if_true, all]
      · simp only [Except.map, if_neg nothing]

end Controls

end Proofread.Lint
