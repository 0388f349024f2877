import Proofread.Markdown.Parse
import Proofread.Proofs.HeadingReports
import Proofread.Proofs.Places
import Proofread.Proofs.Replay

set_option autoImplicit false

namespace Proofread.Lint

def headingsBelow (n : Node) : List Heading :=
  (Node.preorderList n.children).filterMap Heading.ofNode?

-- Each heading that has a place starts before it ends, and lies inside each node around it that has
-- a place too.
structure HeadingsNested (tree : Node) : Prop where
  proper : ∀ heading ∈ headings tree, heading.span.start.before heading.span.stop = true
  inside : ∀ around ∈ tree.preorder, ∀ outer ∈ around.span, ∀ heading ∈ headingsBelow around,
    outer.start.notAfter heading.span.start = true ∧ heading.span.stop.notAfter outer.stop = true

theorem heading_listed (n : Node) (heading : Heading) :
    heading ∈ headings n ↔ Heading.ofNode? n = some heading ∨ heading ∈ headingsBelow n := by
  rw [headings, Node.preorder_root, headingsBelow]
  simp only [List.mem_filterMap, List.mem_cons, or_and_right, exists_or, exists_eq_left]

theorem headings_within (tree n : Node) (listed : n ∈ tree.preorder) (heading : Heading)
    (inside : heading ∈ headings n) : heading ∈ headings tree := by
  rw [headings, List.mem_filterMap] at inside ⊢
  obtain ⟨m, below, read⟩ := inside
  exact ⟨m, Node.preorder_within tree n listed m below, read⟩

-- The start of a nested heading, even of one that ends where the node around it ends.
theorem nested_heading_contained (tree n : Node) (nested : HeadingsNested tree)
    (listed : n ∈ tree.preorder) (span : Span) (placed : n.span = some span) (heading : Heading)
    (inside : heading ∈ headings n) : span.contains heading.span.start = true := by
  have proper := nested.proper heading (headings_within tree n listed heading inside)
  rw [Span.contains, Bool.and_eq_true]
  rcases (heading_listed n heading).mp inside with itself | below
  · have same : heading.span = span :=
      Option.some.inj ((heading_fields n heading itself).2.symm.trans placed)
    rw [same] at proper ⊢
    exact ⟨Point.not_after_refl span.start, proper⟩
  · obtain ⟨starts, ends⟩ := nested.inside n listed span placed heading below
    exact ⟨starts, Point.before_of_before_not_after _ _ _ proper ends⟩

theorem ignored_headings_silent (tree comment next : Node) (rules : List String) (rule : Rule)
    (nested : HeadingsNested tree)
    (adjacent : Node.Adjacent tree.preorder comment (some next))
    (directive : comment.span.isSome ∧ Comment.ofNode comment = .directive ⟨.ignore, rules⟩)
    (placed : next.span.isSome) (stock : rule ∈ headingRules)
    (about : rules = [] ∨ rule.id ∈ rules) (file kept : LintFile)
    (applied : Controls.apply tree file = .ok kept) :
    (∀ (context : RuleContext) (options : Option Json.Value),
      Anchored (headings tree) (rule.check tree context options).emissions) ∧
    ∀ message ∈ kept.messages, message.ruleId = rule.id →
      ∀ heading ∈ headings next, message.location ≠ some (.range heading.span) := by
  refine ⟨heading_rules_anchored rule stock tree, ?_⟩
  intro message listed raised heading inside location
  obtain ⟨span, covered⟩ := Option.isSome_iff_exists.mp placed
  have start : message.start? = some heading.span.start := by
    rw [Message.start?, location]
    rfl
  have contained := nested_heading_contained tree next nested
    (Node.next_in_preorder tree comment next adjacent) span covered heading inside
  rw [← raised] at about
  exact ignored_not_kept tree file kept applied message heading.span.start start
    ⟨comment, next, rules, span, adjacent, directive.1, directive.2, about, covered, contained⟩
    listed

instance (tree : Node) : Decidable (HeadingsNested tree) :=
  decidable_of_iff
    ((∀ heading ∈ headings tree, heading.span.start.before heading.span.stop = true) ∧
      ∀ around ∈ tree.preorder, ∀ outer ∈ around.span, ∀ heading ∈ headingsBelow around,
        outer.start.notAfter heading.span.start = true ∧
          heading.span.stop.notAfter outer.stop = true)
    ⟨fun both => ⟨both.1, both.2⟩, fun nested => ⟨nested.proper, nested.inside⟩⟩

def quotedText : String :=
  "<!--lint ignore-->\n> <!--lint enable-->\n>\n> - # A.\n"

def quotedTree : Node :=
  ⟨.root, some ⟨⟨1, 1, 0⟩, ⟨5, 1, 51⟩⟩, [
    .leaf (.html "<!--lint ignore-->") (some ⟨⟨1, 1, 0⟩, ⟨1, 19, 18⟩⟩),
    ⟨.blockquote, some ⟨⟨2, 1, 19⟩, ⟨4, 9, 50⟩⟩, [
      .leaf (.html "<!--lint enable-->") (some ⟨⟨2, 3, 21⟩, ⟨2, 21, 39⟩⟩),
      ⟨.list false, some ⟨⟨4, 3, 44⟩, ⟨4, 9, 50⟩⟩, [
        ⟨.listItem, some ⟨⟨4, 3, 44⟩, ⟨4, 9, 50⟩⟩, [
          ⟨.heading 1, some ⟨⟨4, 5, 46⟩, ⟨4, 9, 50⟩⟩, [
            .leaf (.text "A.") (some ⟨⟨4, 7, 48⟩, ⟨4, 9, 50⟩⟩)]⟩]⟩]⟩]⟩]⟩

def quotedReport : Message :=
  (Rules.Heading.report ⟨1, "A.", ⟨⟨4, 5, 46⟩, ⟨4, 9, 50⟩⟩⟩
    "Don’t add a trailing `.` to headings").toMessage none "no-heading-punctuation" (some false)

def outline (tree : Node) : List (NodeKind × Option Span × Nat) :=
  tree.preorder.map fun n => (n.kind, n.span, n.children.length)

theorem ignored_headings_silent_quoted :
    outline (Markdown.parse quotedText) = outline quotedTree ∧
    HeadingsNested quotedTree ∧
    (Rules.noHeadingPunctuation.check quotedTree ⟨"", none, [], "no-heading-punctuation"⟩
        none).emissions.map (Emission.toMessage none "no-heading-punctuation" (some false)) =
      [quotedReport] ∧
    ∃ kept, Controls.apply quotedTree ⟨none, "", [quotedReport]⟩ = .ok kept ∧
      quotedReport ∉ kept.messages := by
  have nested : HeadingsNested quotedTree := by decide
  refine ⟨by decide +kernel, nested, by decide, _, rfl, ?_⟩
  intro listed
  have silent := (ignored_headings_silent quotedTree _ _ [] Rules.noHeadingPunctuation nested
    ⟨quotedTree, List.mem_cons_self, 0, rfl, rfl⟩ ⟨rfl, rfl⟩ rfl List.mem_cons_self (Or.inl rfl)
    ⟨none, "", [quotedReport]⟩ _ rfl).2 quotedReport listed rfl
  exact silent ⟨1, "A.", ⟨⟨4, 5, 46⟩, ⟨4, 9, 50⟩⟩⟩ (by decide) rfl

end Proofread.Lint
