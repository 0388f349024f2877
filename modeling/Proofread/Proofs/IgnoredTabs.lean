import Proofread.Proofs.ParsedSpans
import Proofread.Proofs.Pass
import Proofread.Proofs.Replay

set_option autoImplicit false

namespace Proofread.Lint

open Markdown (BetweenCharacters treeOfEvents)
open Rules (charPoints)

theorem ignored_span_silent (tree comment next : Node) (block : Span)
    (adjacent : Node.Adjacent tree.preorder comment (some next))
    (here : comment.span.isSome) (directive : Comment.ofNode comment = .directive ⟨.ignore, []⟩)
    (placed : next.span = some block) (file kept : LintFile)
    (applied : Controls.apply tree file = .ok kept) (message : Message)
    (listed : message ∈ kept.messages) (start : Point) (starts : message.start? = some start) :
    block.contains start = false := by
  cases covered : block.contains start with
  | false => rfl
  | true =>
      exact absurd listed (ignored_not_kept tree file kept applied message start starts
        ⟨comment, next, [], block, adjacent, here, directive, Or.inl rfl, placed, covered⟩)

-- What is left of the lines of a block behind the places it contains.
theorem behind_block (block : Span) (start : Point) (outside : block.contains start = false)
    (behind : block.start.notAfter start = true) (line : start.line ≤ block.stop.line) :
    start.line = block.stop.line ∧ block.stop.column ≤ start.column := by
  rw [Span.contains, behind, Bool.true_and, ← Bool.not_eq_true, Point.before_iff] at outside
  omega

theorem root_adjacent (tree comment next : Node) (i : Nat)
    (here : tree.children[i]? = some comment) (after : tree.children[i + 1]? = some next) :
    Node.Adjacent tree.preorder comment (some next) :=
  ⟨tree, Node.self_in_preorder tree, i, here, after⟩

def tabMessage (path : Option String) (fatal : Option Bool) (place : Point) : Message :=
  ⟨"no-tabs", "Use spaces instead of hard-tabs", path, some (.point place), fatal, "marklint"⟩

theorem ignore_alone_allows (block : Span) (path : Option String) (fatal : Option Bool)
    (place : Point) :
    Controls.allows ⟨[], [⟨block, []⟩]⟩ (tabMessage path fatal place) = !block.contains place := by
  simp only [Controls.allows, Message.start?, tabMessage, Option.map_some, Location.start,
    List.any_cons, List.any_nil, Bool.or_false, concerns, List.isEmpty_nil, Bool.true_or,
    Bool.true_and, List.filter_nil, List.getLast?_nil]
  cases block.contains place <;> rfl

theorem tabs_outside_reported (p : Pipeline) (tree : Node) (block : Span) (config : Resolved)
    (file kept : LintFile) (alone : p.enabledRules = [⟨Rules.noTabs, "no-tabs", config⟩])
    (fresh : file.messages = [])
    (only : Controls.collect (p.view tree) = .ok ⟨[], [⟨block, []⟩]⟩)
    (passed : p.processTree tree file = .success kept) :
    kept.messages = ((charPoints file.contents '\t').filter fun place =>
      !block.contains place).map (tabMessage file.path config.fatal) := by
  obtain ⟨_, c, collected, filtered⟩ := (Pipeline.process_tree_succeeds p tree file kept).mp passed
  have directives : c = ⟨[], [⟨block, []⟩]⟩ := Except.ok.inj (collected.symm.trans only)
  have emitted : p.enabledRules.flatMap (p.emitted (p.view tree) file) =
      (charPoints file.contents '\t').map (tabMessage file.path config.fatal) := by
    rw [alone, List.flatMap_singleton, Pipeline.emitted, Pipeline.messagesOf, Pipeline.findings]
    simp only [Rules.noTabs, Findings.ofEmissions, List.map_map]
    rfl
  have kept : ∀ place ∈ charPoints file.contents '\t',
      (Controls.allows ⟨[], [⟨block, []⟩]⟩ ∘ tabMessage file.path config.fatal) place =
        !block.contains place :=
    fun place _ => ignore_alone_allows block file.path config.fatal place
  rw [filtered, directives, emitted, fresh, List.nil_append, List.filter_map]
  exact congrArg _ (List.filter_congr kept)

-- What an `ignore` comment does to the tabs of the next block, in a pass that keeps the spans and
-- succeeds.
def NextTabsIgnored (tree : Node) (text : String) : Prop :=
  ∀ (i : Nat) (comment next : Node) (block : Span), tree.children[i]? = some comment →
    tree.children[i + 1]? = some next → Comment.ofNode comment = .directive ⟨.ignore, []⟩ →
    next.span = some block → ∀ (p : Pipeline) (file kept : LintFile), p.stripSpans = false →
    file.contents = text → p.processTree tree file = .success kept →
      (∀ message ∈ kept.messages, ∀ start, message.start? = some start →
        block.start.notAfter start = true → start.line ≤ block.stop.line →
          start.line = block.stop.line ∧ block.stop.column ≤ start.column) ∧
      (∀ place ∈ charPoints text '\t',
        block.start.offset ≤ place.offset → place.offset < block.stop.offset →
          ∀ message ∈ kept.messages, message.start? ≠ some place) ∧
      ∀ config, p.enabledRules = [⟨Rules.noTabs, "no-tabs", config⟩] → file.messages = [] →
        Controls.collect tree = .ok ⟨[], [⟨block, []⟩]⟩ →
          kept.messages = ((charPoints text '\t').filter fun place =>
            decide (place.offset < block.start.offset) ||
              decide (block.stop.offset ≤ place.offset)).map (tabMessage file.path config.fatal)

theorem next_tabs_ignored (tree : Node) (text : String)
    (within : ∀ n ∈ Node.preorderList tree.children,
      ∃ span, n.span = some span ∧ span.Within text.toList) : NextTabsIgnored tree text := by
  intro i comment next block here after directive placed p file kept spans document passed
  subst document
  have kind : p.view tree = tree := by
    rw [Pipeline.view, spans]
    rfl
  obtain ⟨_, commentPlaced, _⟩ := within comment (Node.child_in_preorder _ i comment here)
  obtain ⟨span, nextPlaced, ⟨ends, _⟩⟩ :=
    within next (Node.child_in_preorder _ (i + 1) next after)
  have same : span = block := Option.some.inj (nextPlaced.symm.trans placed)
  rw [same] at ends
  obtain ⟨found, applied⟩ := Pipeline.process_tree_applies p _ file kept passed
  rw [kind] at applied
  have silent := ignored_span_silent _ comment next block
    (root_adjacent _ comment next i here after) (by rw [commentPlaced]; rfl) directive placed found
    kept applied
  have offsets : ∀ place ∈ charPoints file.contents '\t', (block.contains place = true ↔
      block.start.offset ≤ place.offset ∧ place.offset < block.stop.offset) := fun place listed =>
    Span.contains_iff_offset _ block place ends (Rules.char_points_in _ '\t' place listed)
  refine ⟨?_, ?_, ?_⟩
  · intro message listed start starts behind line
    exact behind_block block start (silent message listed start starts) behind line
  · intro place listed notBefore before message kept starts
    have covered := (offsets place listed).mpr ⟨notBefore, before⟩
    rw [silent message kept place starts] at covered
    cases covered
  · intro config alone fresh only
    rw [← kind] at only
    rw [tabs_outside_reported p _ block config file kept alone fresh only passed]
    congr 1
    apply List.filter_congr
    intro place listed
    have inside := offsets place listed
    rw [Bool.eq_iff_iff, Bool.not_eq_true', ← Bool.not_eq_true, inside, Bool.or_eq_true,
      decide_eq_true_eq, decide_eq_true_eq]
    omega

theorem ignored_block_tabs (text : String) :
    (∀ events, BetweenCharacters text.toList events →
      NextTabsIgnored (treeOfEvents text.toList events) text) ∧
    NextTabsIgnored (Markdown.parse text) text := by
  have placed := fun events between =>
    next_tabs_ignored (treeOfEvents text.toList events) text
      (Markdown.nodes_within text.toList events between)
  exact ⟨placed, placed (Markdown.events text.toList) (Markdown.events_between _)⟩

def tabsOnly : Pipeline :=
  ⟨[⟨Rules.noTabs, "no-tabs", .ofSeverity .warn none⟩], [], false⟩

def twoTabsText : String :=
  "<!--lint ignore-->\na\tb\t"

theorem ignored_block_tabs_two :
    ∃ comment next kept,
      (Markdown.parse twoTabsText).children[0]? = some comment ∧
      (Markdown.parse twoTabsText).children[1]? = some next ∧
      next.span = some ⟨⟨2, 1, 19⟩, ⟨2, 4, 22⟩⟩ ∧
      charPoints twoTabsText '\t' = [⟨2, 2, 20⟩, ⟨2, 4, 22⟩] ∧
      tabsOnly.process (.ofContents twoTabsText) = .success kept ∧
      kept.messages = [tabMessage none (some false) ⟨2, 4, 22⟩] := by
  have directives : (Markdown.parse twoTabsText).children[0]?.map Comment.ofNode =
      some (.directive ⟨.ignore, []⟩) := by decide +kernel
  have spans : ((Markdown.parse twoTabsText).children[1]?).map Node.span =
      some (some ⟨⟨2, 1, 19⟩, ⟨2, 4, 22⟩⟩) := by decide +kernel
  have only : Controls.collect (Markdown.parse twoTabsText) =
      .ok ⟨[], [⟨⟨⟨2, 1, 19⟩, ⟨2, 4, 22⟩⟩, []⟩]⟩ := by
    have read : (Controls.collect (Markdown.parse twoTabsText)).toOption =
        some ⟨[], [⟨⟨⟨2, 1, 19⟩, ⟨2, 4, 22⟩⟩, []⟩]⟩ := by decide +kernel
    cases collected : Controls.collect (Markdown.parse twoTabsText) with
    | error e =>
        rw [collected] at read
        cases read
    | ok c =>
        rw [collected] at read
        rw [Option.some.inj read]
  have tabs : charPoints twoTabsText '\t' = [⟨2, 2, 20⟩, ⟨2, 4, 22⟩] := by decide +kernel
  have passes : (tabsOnly.process (.ofContents twoTabsText)).isSuccess = true := by decide +kernel
  obtain ⟨comment, here, directive⟩ := Option.map_eq_some_iff.mp directives
  obtain ⟨next, after, placed⟩ := Option.map_eq_some_iff.mp spans
  cases outcome : tabsOnly.process (.ofContents twoTabsText) with
  | configurationError e =>
      rw [outcome] at passes
      cases passes
  | processingFailure failure =>
      rw [outcome] at passes
      cases passes
  | overflow =>
      rw [outcome] at passes
      cases passes
  | success kept =>
      have left := ((ignored_block_tabs twoTabsText).2 0 comment next _ here after directive placed
        tabsOnly (.ofContents twoTabsText) kept rfl rfl outcome).2.2 _ rfl rfl only
      rw [tabs] at left
      exact ⟨comment, next, kept, here, after, placed, tabs, rfl, left⟩

def trailingTabText : String :=
  "<!--lint ignore-->\na\t"

def stoppedText : String :=
  "<!--lint ignore-->\na\tb\n\n<!--lint mute-->"

theorem tabs_of_ignored_lines_reported :
    (Markdown.parse trailingTabText).children[0]?.map Comment.ofNode =
        some (.directive ⟨.ignore, []⟩) ∧
      (Markdown.parse trailingTabText).children[1]?.map Node.span =
        some (some ⟨⟨2, 1, 19⟩, ⟨2, 2, 20⟩⟩) ∧
      tabsOnly.process (.ofContents trailingTabText) =
        .success ⟨none, trailingTabText, [tabMessage none (some false) ⟨2, 2, 20⟩]⟩ ∧
    (Markdown.parse stoppedText).children[0]?.map Comment.ofNode =
        some (.directive ⟨.ignore, []⟩) ∧
      (Markdown.parse stoppedText).children[1]?.map Node.span =
        some (some ⟨⟨2, 1, 19⟩, ⟨2, 4, 22⟩⟩) ∧
      tabsOnly.process (.ofContents stoppedText) =
        .processingFailure ⟨"lint", unknownKeywordReason "mute", some "marklint",
          some ⟨⟨4, 1, 24⟩, ⟨4, 17, 40⟩⟩,
          ⟨none, stoppedText, [tabMessage none (some false) ⟨2, 2, 20⟩]⟩⟩ := by
  decide +kernel

end Proofread.Lint
