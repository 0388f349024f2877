import Mathlib.Data.List.Forall2
import Proofread.Proofs.HeadingRemarks
import Proofread.Proofs.Pass

set_option autoImplicit false

namespace Proofread.Lint

def placedHeadings (tree : Node) : List Node :=
  tree.preorder.filter fun n => n.headingDepth?.isSome && !n.isGenerated

def SameHeading (m n : Node) : Prop :=
  m.headingDepth? = n.headingDepth? ∧ m.text = n.text ∧ m.span = n.span

def SameOutline (a b : Node) : Prop :=
  List.Forall₂ SameHeading (placedHeadings a) (placedHeadings b)

theorem of_node_same (m n : Node) (same : SameHeading m n) :
    Heading.ofNode? m = Heading.ofNode? n := by
  obtain ⟨depth, text, span⟩ := same
  rw [Heading.ofNode?, Heading.ofNode?, depth, text, span]

theorem headings_placed_nodes (tree : Node) :
    headings tree = (placedHeadings tree).filterMap Heading.ofNode? := by
  rw [headings, placedHeadings, List.filterMap_filter]
  congr 1
  funext n
  rw [Heading.ofNode?, Node.isGenerated]
  cases n.headingDepth? <;> cases n.span <;> rfl

theorem same_headings (left right : List Node) (same : List.Forall₂ SameHeading left right) :
    left.filterMap Heading.ofNode? = right.filterMap Heading.ofNode? := by
  induction same with
  | nil => rfl
  | cons alike _ ih => rw [List.filterMap_cons, List.filterMap_cons, ih, of_node_same _ _ alike]

theorem same_outline_headings (a b : Node) (same : SameOutline a b) : headings a = headings b := by
  rw [headings_placed_nodes, headings_placed_nodes]
  exact same_headings _ _ same

theorem heading_rules_outline (rule : Rule) (stock : rule ∈ headingRules) (a b : Node)
    (same : SameOutline a b) (context other : RuleContext) (options : Option Json.Value) :
    rule.check a context options = rule.check b other options := by
  have outlines := same_outline_headings a b same
  simp only [headingRules, List.mem_cons, List.not_mem_nil, or_false] at stock
  rcases stock with rfl | rfl | rfl | rfl | rfl
  · simp only [Rules.noHeadingPunctuation, outlines]
  · simp only [Rules.noMultipleToplevelHeadings, outlines]
  · simp only [Rules.headingIncrement, outlines]
  · simp only [Rules.firstHeadingLevel, outlines]
  · simp only [Rules.noDuplicateHeadings, Rules.distinctHeadings, outlines]

def againReason (heading : Heading) : String :=
  "Don’t use multiple top level headings (" ++ heading.span.start.render ++ ")"

def Again (depth : UInt8) (all : List Heading) (i : Nat) (heading : Heading) (reason : String) :
    Prop :=
  heading.depth = depth ∧ (∃ j < i, ∃ first, all[j]? = some first ∧ first.depth = depth) ∧
    reason = againReason heading

def againJudge (depth : UInt8) (before : List Heading) (heading : Heading) : Option String :=
  if heading.depth = depth ∧ before.any (·.depth = depth) then some (againReason heading) else none

-- Once one heading of the depth was met, none is left out.
theorem toplevel_remarked (depth : UInt8) (before rest : List Heading) :
    ((rest.filter (·.depth = depth)).drop (if before.any (·.depth = depth) then 0 else 1)).map
        (fun heading => Rules.Heading.report heading (againReason heading)) =
      (remarks (againJudge depth) before rest).map Remark.report := by
  induction rest generalizing before with
  | nil => simp [remarks]
  | cons heading rest ih =>
      have later := ih (before ++ [heading])
      rw [List.any_append] at later
      rw [remarks]
      by_cases top : heading.depth = depth
      · have met : [heading].any (·.depth = depth) = true := by simpa using top
        rw [met, Bool.or_true, if_pos rfl, List.drop_zero] at later
        rw [List.filter_cons_of_pos (by simpa using top)]
        cases seen : before.any (·.depth = depth) with
        | false =>
            have silent : againJudge depth before heading = none := if_neg (by simp [seen])
            rw [silent]
            exact later
        | true =>
            have judged : againJudge depth before heading = some _ := if_pos ⟨top, seen⟩
            rw [judged, if_pos rfl, List.drop_zero, List.map_cons, later]
            rfl
      · have silent : againJudge depth before heading = none := if_neg fun due => top due.1
        have unmet : [heading].any (·.depth = depth) = false := by simpa using top
        rw [unmet, Bool.or_false] at later
        rw [List.filter_cons_of_neg (by simpa using top), silent]
        exact later

theorem again_due (depth : UInt8) (all : List Heading) (i : Nat) (heading : Heading)
    (reason : String) :
    againJudge depth (all.take i) heading = some reason ↔ Again depth all i heading reason := by
  rw [againJudge, Again, Option.ite_none_right_eq_some, Option.some.injEq, List.any_eq_true]
  simp only [earlier_iff, decide_eq_true_eq]
  grind

theorem toplevel_reported (depth : UInt8) (all : List Heading) :
    Reported all (Again depth all) (Rules.toplevelReports depth all) := by
  have remarked := toplevel_remarked depth [] all
  have emitted : Rules.toplevelReports depth all =
      (remarks (againJudge depth) [] all).map Remark.report := remarked
  rw [emitted]
  exact remarks_reported (againJudge depth) all _
    fun i heading reason _ => again_due depth all i heading reason

def Misplaced (depth : UInt8) (i : Nat) (heading : Heading) (reason : String) : Prop :=
  i = 0 ∧ heading.depth ≠ depth ∧
    reason = "First heading level should be `" ++ toString depth.toNat ++ "`"

theorem first_reported (depth : UInt8) (all : List Heading) :
    Reported all (Misplaced depth) (Rules.firstHeadingReports depth all) := by
  cases all with
  | nil => exact ⟨[], rfl, .nil, fun remark => by simp⟩
  | cons first rest =>
      rw [Rules.firstHeadingReports]
      by_cases other : first.depth ≠ depth
      · rw [if_pos other]
        refine ⟨[⟨0, first, _⟩], rfl, List.pairwise_singleton _ _, fun remark => ?_⟩
        obtain ⟨place, heading, reason⟩ := remark
        rw [List.mem_singleton, Remark.mk.injEq, Misplaced]
        constructor
        · rintro ⟨rfl, rfl, rfl⟩
          exact ⟨rfl, rfl, other, rfl⟩
        · rintro ⟨found, rfl, _, rfl⟩
          rw [List.getElem?_cons_zero, Option.some.injEq] at found
          exact ⟨rfl, found.symm, rfl⟩
      · rw [if_neg other]
        refine ⟨[], rfl, .nil, fun remark => ?_⟩
        simp only [List.not_mem_nil, false_iff, Misplaced]
        rintro ⟨found, place, different, _⟩
        rw [place, List.getElem?_cons_zero, Option.some.injEq] at found
        exact other (found ▸ different)

def punctuationReason (last : Char) : String :=
  "Don’t add a trailing `" ++ String.singleton last ++ "` to headings"

def Punctuated (chars : String) (_ : Nat) (heading : Heading) (reason : String) : Prop :=
  ∃ last, heading.text.toList.getLast? = some last ∧ last ∈ chars.toList ∧
    reason = punctuationReason last

def punctuationJudge (chars : String) (_ : List Heading) (heading : Heading) : Option String :=
  (Rules.trailingPunctuation? chars heading).map punctuationReason

theorem punctuation_remarked (chars : String) (before rest : List Heading) :
    Rules.punctuationReports chars rest =
      (remarks (punctuationJudge chars) before rest).map Remark.report := by
  induction rest generalizing before with
  | nil => rfl
  | cons heading rest ih =>
      have later := ih (before ++ [heading])
      rw [Rules.punctuationReports] at later ⊢
      rw [List.filterMap_cons, remarks, punctuationJudge, later]
      cases Rules.trailingPunctuation? chars heading <;> rfl

theorem punctuation_due (chars : String) (before : List Heading) (i : Nat) (heading : Heading)
    (reason : String) :
    punctuationJudge chars before heading = some reason ↔ Punctuated chars i heading reason := by
  rw [punctuationJudge, Rules.trailingPunctuation?, Punctuated, Option.map_eq_some_iff]
  simp only [Option.filter_eq_some_iff, List.contains_eq_mem, decide_eq_true_eq]
  grind

theorem punctuation_reported (chars : String) (all : List Heading) :
    Reported all (Punctuated chars) (Rules.punctuationReports chars all) := by
  rw [punctuation_remarked chars [] all]
  exact remarks_reported (punctuationJudge chars) all _
    fun i heading reason _ => punctuation_due chars (all.take i) i heading reason

theorem emitted_outline (p q : Pipeline) (a : AttachedRule) (stock : a.rule ∈ headingRules)
    (tree other : Node) (same : SameOutline tree other) (file twin : LintFile)
    (path : file.path = twin.path) : p.emitted tree file a = q.emitted other twin a := by
  rw [Pipeline.emitted, Pipeline.emitted, Pipeline.messagesOf, Pipeline.messagesOf, path,
    Pipeline.findings, Pipeline.findings, heading_rules_outline a.rule stock tree other same]

theorem first_reports_once (depth : UInt8) (all : List Heading) :
    (Rules.firstHeadingReports depth all).length ≤ 1 ∧
      (Rules.firstHeadingReports depth all ≠ [] ↔
        ∃ first, all[0]? = some first ∧ first.depth ≠ depth) := by
  cases all with
  | nil => simp [Rules.firstHeadingReports]
  | cons first rest =>
      rw [Rules.firstHeadingReports]
      by_cases other : first.depth ≠ depth
      · simp [other]
      · simp [other]

theorem outline_decides :
    (∀ rule ∈ headingRules, ∀ (tree other : Node) (context another : RuleContext)
      (options : Option Json.Value), SameOutline tree other →
      rule.check tree context options = rule.check other another options) ∧
    (∀ (p q : Pipeline) (a : AttachedRule), a.rule ∈ headingRules →
      ∀ (tree other : Node) (file twin : LintFile), SameOutline tree other →
      file.path = twin.path → p.emitted tree file a = q.emitted other twin a) ∧
    ∀ (tree : Node) (context : RuleContext) (options : Option Json.Value),
      (∀ depth, depthOption 1 options = .ok depth →
        ∃ again misplaced,
          Rules.noMultipleToplevelHeadings.check tree context options = .ofEmissions again ∧
          Reported (headings tree) (Again depth (headings tree)) again ∧
          Rules.firstHeadingLevel.check tree context options = .ofEmissions misplaced ∧
          Reported (headings tree) (Misplaced depth) misplaced ∧ misplaced.length ≤ 1 ∧
          (misplaced ≠ [] ↔ ∃ first, (headings tree)[0]? = some first ∧ first.depth ≠ depth)) ∧
      ∀ chars, punctuationOption options = .ok chars →
        ∃ punctuated,
          Rules.noHeadingPunctuation.check tree context options = .ofEmissions punctuated ∧
          Reported (headings tree) (Punctuated chars) punctuated := by
  refine ⟨?_, ?_, ?_⟩
  · intro rule stock tree other context another options same
    exact heading_rules_outline rule stock tree other same context another options
  · intro p q a stock tree other file twin same path
    exact emitted_outline p q a stock tree other same file twin path
  · intro tree context options
    constructor
    · intro depth valid
      refine ⟨Rules.toplevelReports depth (headings tree),
        Rules.firstHeadingReports depth (headings tree), ?_, toplevel_reported depth _, ?_,
        first_reported depth _, first_reports_once depth _⟩
      · simp only [Rules.noMultipleToplevelHeadings, valid]
      · simp only [Rules.firstHeadingLevel, valid]
    · intro chars valid
      refine ⟨Rules.punctuationReports chars (headings tree), ?_, punctuation_reported chars _⟩
      simp only [Rules.noHeadingPunctuation, valid]

def quotedOutline : Node :=
  ⟨.root, none, [
    ⟨.heading 2, some ⟨⟨1, 1, 0⟩, ⟨1, 6, 5⟩⟩, [.leaf (.text "A.") none]⟩,
    ⟨.blockquote, some ⟨⟨3, 1, 7⟩, ⟨3, 9, 15⟩⟩, [
      ⟨.heading 2, some ⟨⟨3, 3, 9⟩, ⟨3, 9, 15⟩⟩, [
        .leaf (.text "B") none, ⟨.emphasis, none, [.leaf (.text "!") none]⟩]⟩]⟩]⟩

def plainOutline : Node :=
  ⟨.root, some ⟨⟨1, 1, 0⟩, ⟨4, 1, 16⟩⟩, [
    ⟨.heading 2, some ⟨⟨1, 1, 0⟩, ⟨1, 6, 5⟩⟩, [.leaf (.inlineCode "A.") none]⟩,
    ⟨.heading 1, none, [.leaf (.text "Generated") none]⟩,
    .leaf .thematicBreak (some ⟨⟨2, 1, 6⟩, ⟨2, 1, 6⟩⟩),
    ⟨.heading 2, some ⟨⟨3, 3, 9⟩, ⟨3, 9, 15⟩⟩, [.leaf (.text "B!") none]⟩]⟩

def outlineContext : RuleContext :=
  ⟨"## A.\n\n> ## B*!*\n", none, [], "no-multiple-toplevel-headings"⟩

theorem outline_decides_quoted :
    SameOutline quotedOutline plainOutline ∧
    (∀ rule ∈ headingRules, rule.check quotedOutline outlineContext none =
      rule.check plainOutline ⟨"", some "plain.md", [], rule.id⟩ none) ∧
    depthOption 1 (some (.number (.whole 2))) = .ok 2 ∧
    ∃ again,
      Rules.noMultipleToplevelHeadings.check quotedOutline outlineContext
        (some (.number (.whole 2))) = .ofEmissions again ∧
      Reported (headings quotedOutline) (Again 2 (headings quotedOutline)) again ∧
      again = [.report "Don’t use multiple top level headings (3:3)"
        (some (.range ⟨⟨3, 3, 9⟩, ⟨3, 9, 15⟩⟩))] := by
  have same : SameOutline quotedOutline plainOutline :=
    .cons ⟨rfl, rfl, rfl⟩ (.cons ⟨rfl, by decide, rfl⟩ .nil)
  have valid : depthOption 1 (some (.number (.whole 2))) = .ok 2 := by decide
  refine ⟨same, fun rule stock => ?_, valid, ?_⟩
  · exact outline_decides.1 rule stock quotedOutline plainOutline _ _ none same
  · obtain ⟨again, _, checked, reported, _⟩ :=
      (outline_decides.2.2 quotedOutline outlineContext (some (.number (.whole 2)))).1 2 valid
    refine ⟨again, checked, reported, ?_⟩
    exact (congrArg Findings.emissions checked).symm.trans (by decide)

end Proofread.Lint
