import Proofread.Proofs.BuiltinPass
import Proofread.Proofs.HeadingReports

set_option autoImplicit false

namespace Proofread.Lint

def contentReports (ruleId : String) (contents : String) : List Emission :=
  if ruleId = "final-newline" then
    if contents ≠ "" && !Rules.endsWithNewline contents then
      [.report "Missing newline character at end of file" (some (.point ⟨1, 1, 0⟩))]
    else []
  else if ruleId = "no-tabs" then
    (Rules.charPoints contents '\t').map fun place =>
      .report "Use spaces instead of hard-tabs" (some (.point place))
  else []

theorem heading_rules_no_content (rule : Rule) (stock : rule ∈ headingRules) (contents : String) :
    contentReports rule.id contents = [] := by
  simp only [headingRules, List.mem_cons, List.not_mem_nil, or_false] at stock
  rcases stock with rfl | rfl | rfl | rfl | rfl <;> rfl

theorem builtin_content_or_heading (rule : Rule) (builtin : rule ∈ Registry.builtinRules) :
    rule = Rules.finalNewline ∨ rule = Rules.noTabs ∨ rule ∈ headingRules := by
  simp only [Registry.builtinRules, headingRules, List.mem_cons, List.not_mem_nil,
    or_false] at builtin ⊢
  rcases builtin with same | same | same | same | same | same | same <;> simp [same]

-- All that these rules do is to report: the start of the text, a tab of it, or a heading.
theorem builtin_emission_cases (rule : Rule) (builtin : rule ∈ Registry.builtinRules)
    (tree : Node) (context : RuleContext) (options : Option Json.Value) (e : Emission)
    (emitted : e ∈ (rule.check tree context options).emissions) :
    ∃ reason location, e = .report reason (some location) ∧
      (location = .point ⟨1, 1, 0⟩ ∨
        (∃ place ∈ Rules.charPoints context.contents '\t', location = .point place) ∨
          ∃ heading ∈ headings tree, location = .range heading.span) := by
  rcases builtin_content_or_heading rule builtin with rfl | rfl | stock
  · simp only [Rules.finalNewline] at emitted
    cases missing : context.contents ≠ "" && !Rules.endsWithNewline context.contents with
    | false =>
        rw [missing] at emitted
        cases emitted
    | true =>
        rw [missing] at emitted
        rw [List.mem_singleton.mp emitted]
        exact ⟨_, _, rfl, Or.inl rfl⟩
  · simp only [Rules.noTabs, Findings.ofEmissions, List.mem_map] at emitted
    obtain ⟨place, listed, same⟩ := emitted
    exact ⟨_, _, same.symm, Or.inr (Or.inl ⟨place, listed, rfl⟩)⟩
  · obtain ⟨heading, known, reason, same⟩ :=
      heading_rules_anchored rule stock tree context options e emitted
    exact ⟨reason, .range heading.span, same, Or.inr (Or.inr ⟨heading, known, rfl⟩)⟩

theorem builtin_reports_without_spans (rule : Rule) (builtin : rule ∈ Registry.builtinRules)
    (tree : Node) (context : RuleContext) (options : Option Json.Value) :
    (rule.check tree.withoutSpans context options).emissions =
      contentReports rule.id context.contents := by
  rcases builtin_content_or_heading rule builtin with rfl | rfl | heading
  · simp only [Rules.finalNewline, contentReports, if_true]
    cases context.contents ≠ "" && !Rules.endsWithNewline context.contents <;> rfl
  · rfl
  · rw [heading_rules_silent rule heading, heading_rules_no_content rule heading]

namespace Pipeline

def contentMessages (file : LintFile) (a : AttachedRule) : List Message :=
  (contentReports a.rule.id file.contents).map
    (Emission.toMessage file.path a.rule.id a.config.fatal)

theorem emitted_without_spans (p : Pipeline) (a : AttachedRule)
    (stocked : Stocked Registry.builtinRules a) (tree : Node) (file : LintFile) :
    p.emitted tree.withoutSpans file a = contentMessages file a := by
  rw [emitted, messagesOf, findings, builtin_reports_without_spans a.rule stocked.known,
    stocked.named]
  rfl

theorem validated_without_spans (p : Pipeline) (validated : p.Validated Registry.builtinRules)
    (tree : Node) (file : LintFile) :
    p.withoutSpans.processTree tree file = .success { file with
      messages := file.messages ++ p.enabledRules.flatMap (contentMessages file) } := by
  have completes := validated_completes p.withoutSpans validated tree file fun long =>
    Bool.noConfusion long.1
  have contents : p.enabledRules.flatMap (p.withoutSpans.emitted tree.withoutSpans file) =
      p.enabledRules.flatMap (contentMessages file) := by
    rw [List.flatMap_def, List.flatMap_def]
    congr 1
    apply List.map_congr_left
    intro a enabled
    exact emitted_without_spans p.withoutSpans a (validated a (List.mem_filter.mp enabled).1)
      tree file
  have kept : ∀ messages : List Message, messages.filter Controls.empty.allows = messages :=
    fun messages => List.filter_eq_self.mpr fun message _ =>
      Controls.empty_allows Controls.empty rfl message
  have passed := process_tree_completes p.withoutSpans tree file completes
  rw [show p.withoutSpans.view tree = tree.withoutSpans from rfl,
    Controls.collect_nothing] at passed
  simp only [kept] at passed
  rw [passed, ← contents]
  rfl

theorem spanless_pass_content_only (calls : List Call)
    (builtin : ∀ call ∈ calls, call.Within Registry.builtinRules) (tree : Node)
    (file : LintFile) :
    (build calls).withoutSpans.processTree tree file = .success { file with
        messages := file.messages ++ (build calls).enabledRules.flatMap (contentMessages file) } ∧
      (build calls).withoutSpans.process file = .success { file with
        messages := file.messages ++ (build calls).enabledRules.flatMap (contentMessages file) } ∧
      ∀ a ∈ (build calls).enabledRules, a.rule ∈ headingRules →
        (build calls).withoutSpans.emitted tree.withoutSpans file a = [] := by
  have validated := build_validated Registry.builtinRules calls builtin
  refine ⟨validated_without_spans (build calls) validated tree file,
    validated_without_spans (build calls) validated (Markdown.parse file.contents) file, ?_⟩
  intro a _ heading
  rw [emitted, messagesOf, findings, heading_rules_silent a.rule heading]
  rfl

def contentCalls : List Call :=
  mixedCalls ++ [.attach Rules.finalNewline (.level 2)]

theorem spanless_pass_content_only_muted :
    (∀ call ∈ contentCalls, call.Within Registry.builtinRules) ∧
    (build contentCalls).withoutSpans.processTree mutedTree ⟨none, "### a\tb", []⟩ =
      .success ⟨none, "### a\tb", [
        ⟨"no-tabs", "Use spaces instead of hard-tabs", none, some (.point ⟨1, 6, 5⟩), some false,
          "marklint"⟩,
        ⟨"final-newline", "Missing newline character at end of file", none,
          some (.point ⟨1, 1, 0⟩), some true, "marklint"⟩]⟩ := by
  have within : ∀ call ∈ contentCalls, call.Within Registry.builtinRules := by
    simp [contentCalls, mixedCalls, Call.Within, Registry.builtinRules]
  exact ⟨within, (spanless_pass_content_only contentCalls within mutedTree
    ⟨none, "### a\tb", []⟩).1⟩

end Pipeline

end Proofread.Lint
