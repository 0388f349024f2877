import Proofread.Lint.Registry
import Proofread.Proofs.Assembly
import Proofread.Proofs.FailedPass
import Proofread.Proofs.HeadingIncrements
import Proofread.Proofs.ParsedSpans

set_option autoImplicit false

namespace Proofread.Lint

def Overstretches (id : String) (tree : Node) : Prop :=
  id = "heading-increment" ∧ Overruns (headings tree)

-- How a rule ends: it completes, it overflows, or it refuses its options.
inductive Ends (rule : Rule) (options : Option Json.Value) (tree : Node) : Option Failure → Prop where
  | completes (short : ¬ Overstretches rule.id tree) : Ends rule options tree none
  | overflows (long : Overstretches rule.id tree) : Ends rule options tree (some .overflow)
  | refuses (texts : List String) (short : ¬ Overstretches rule.id tree)
      (rejected : rule.validate options ≠ .ok ()) : Ends rule options tree (some (.reasons texts))

-- A rule that reads its options before it checks refuses the same ones in both.
theorem read_options_end {α : Type} (read : Except String α) (reports : α → List Emission)
    (rule : Rule) (options : Option Json.Value) (tree : Node) (context : RuleContext)
    (validates : rule.validate options = read.map fun _ => ())
    (refused : ∀ reason, read = .error reason →
      rule.check tree context options = .failed reason)
    (accepted : ∀ value, read = .ok value →
      rule.check tree context options = .ofEmissions (reports value))
    (short : ¬ Overstretches rule.id tree) :
    Ends rule options tree (rule.check tree context options).failure := by
  cases read with
  | error reason =>
      rw [refused reason rfl]
      refine .refuses _ short ?_
      rw [validates]
      simp [Except.map]
  | ok value =>
      rw [accepted value rfl]
      exact .completes short

theorem builtin_rule_ends (rule : Rule) (builtin : rule ∈ Registry.builtinRules)
    (options : Option Json.Value) (tree : Node) (context : RuleContext) :
    Ends rule options tree (rule.check tree context options).failure := by
  have other : ∀ id : String, id ≠ "heading-increment" → ¬ Overstretches id tree :=
    fun id distinct stretched => distinct stretched.1
  simp only [Registry.builtinRules, List.mem_cons, List.not_mem_nil, or_false] at builtin
  -- Only the two depth rules and the punctuation rule look at their options.
  rcases builtin with rfl | rfl | rfl | rfl | rfl | rfl | rfl
  · simp only [Rules.finalNewline]
    split <;> exact .completes (other _ (by decide))
  · refine read_options_end (depthOption 1 options)
      (fun expected => Rules.firstHeadingReports expected (headings tree)) _ options tree context
      rfl ?_ ?_ (other _ (by decide)) <;>
    simp +contextual [Rules.firstHeadingLevel]
  · have overflows := increments_overflow none (headings tree)
    simp only [reduceCtorEq, false_and, false_or] at overflows
    simp only [Rules.headingIncrement]
    cases made : Rules.incrementReports none (headings tree) with
    | none => exact .overflows ⟨rfl, overflows.mp made⟩
    | some reports =>
        refine .completes fun stretched => ?_
        rw [overflows.mpr stretched.2] at made
        cases made
  · exact .completes (other _ (by decide))
  · refine read_options_end (punctuationOption options)
      (fun punctuation => Rules.punctuationReports punctuation (headings tree)) _ options tree
      context rfl ?_ ?_ (other _ (by decide)) <;>
    simp +contextual [Rules.noHeadingPunctuation]
  · refine read_options_end (depthOption 1 options)
      (fun depth => Rules.toplevelReports depth (headings tree)) _ options tree context
      rfl ?_ ?_ (other _ (by decide)) <;>
    simp +contextual [Rules.noMultipleToplevelHeadings]
  · exact .completes (other _ (by decide))

theorem builtin_overflows (rule : Rule) (builtin : rule ∈ Registry.builtinRules)
    (options : Option Json.Value) (tree : Node) (context : RuleContext) :
    (rule.check tree context options).failure = some .overflow ↔ Overstretches rule.id tree := by
  have ends := builtin_rule_ends rule builtin options tree context
  generalize (rule.check tree context options).failure = ended at ends
  cases ends with
  | completes short => exact iff_of_false (by simp) short
  | overflows long => exact iff_of_true rfl long
  | refuses texts short rejected => exact iff_of_false (by simp) short

theorem builtin_completes (rule : Rule) (builtin : rule ∈ Registry.builtinRules)
    (options : Option Json.Value) (accepted : rule.validate options = .ok ()) (tree : Node)
    (context : RuleContext) (short : ¬ Overstretches rule.id tree) :
    (rule.check tree context options).failure = none := by
  have ends := builtin_rule_ends rule builtin options tree context
  generalize (rule.check tree context options).failure = ended at ends
  cases ends with
  | completes => rfl
  | overflows long => exact absurd long short
  | refuses texts short rejected => exact absurd accepted rejected

theorem events_never_overrun (text : List Char) (events : List Markdown.Event) :
    ¬ Overruns (headings (Markdown.treeOfEvents text events)) := by
  rintro ⟨before, previous, heading, after, split, greatest⟩
  have known : previous ∈ headings (Markdown.treeOfEvents text events) := by
    rw [split]
    exact List.mem_append_right _ List.mem_cons_self
  obtain ⟨n, listed, read⟩ := List.mem_filterMap.mp known
  have shallow := Markdown.tree_of_events_shallow text events n listed previous.depth
    (heading_fields n previous read).1
  rw [greatest] at shallow
  exact absurd shallow (by decide)

namespace Pipeline

def Overstretched (p : Pipeline) (tree : Node) : Prop :=
  p.stripSpans = false ∧ (∃ a ∈ p.enabledRules, a.ruleId = "heading-increment") ∧
    Overruns (headings tree)

theorem view_overruns (p : Pipeline) (tree : Node) :
    Overruns (headings (p.view tree)) ↔ p.stripSpans = false ∧ Overruns (headings tree) := by
  rw [view]
  cases p.stripSpans with
  | false => simp
  | true =>
      have none : ¬ Overruns [] := by
        rintro ⟨before, _, _, _, split, _⟩
        exact absurd (congrArg List.length split) (by simp)
      simpa [headings_without_spans] using none

theorem overstretched_view (p : Pipeline) (tree : Node) :
    p.Overstretched tree ↔ ∃ a ∈ p.enabledRules, Overstretches a.ruleId (p.view tree) := by
  simp only [Overstretched, Overstretches, view_overruns]
  constructor
  · rintro ⟨kept, ⟨a, enabled, own⟩, overruns⟩
    exact ⟨a, enabled, own, kept, overruns⟩
  · rintro ⟨a, enabled, own, kept, overruns⟩
    exact ⟨kept, ⟨a, enabled, own⟩, overruns⟩

section

variable (p : Pipeline) (validated : p.Validated Registry.builtinRules) (tree : Node)
  (file : LintFile)

include validated

theorem validated_completes (short : ¬ p.Overstretched tree) :
    p.Completes (p.view tree) file p.enabledRules := by
  intro a enabled
  obtain ⟨builtin, named, accepted⟩ := validated a (List.mem_filter.mp enabled).1
  refine builtin_completes a.rule builtin a.config.options accepted (p.view tree) _ ?_
  intro stretched
  rw [← named] at stretched
  exact short ((overstretched_view p tree).mpr ⟨a, enabled, stretched⟩)

theorem validated_overflows (long : p.Overstretched tree) :
    p.processTree tree file = .overflow := by
  have exceeds : ∀ a ∈ p.enabledRules, Overstretches a.ruleId (p.view tree) →
      (p.findings a (p.view tree) file).failure = some .overflow := by
    intro a enabled stretched
    obtain ⟨builtin, named, _⟩ := validated a (List.mem_filter.mp enabled).1
    rw [named] at stretched
    exact (builtin_overflows a.rule builtin a.config.options (p.view tree) _).mpr stretched
  obtain ⟨a, enabled, stretched⟩ := (overstretched_view p tree).mp long
  rcases stopping_or_complete p (p.view tree) file with completes | ⟨before, b, why, first⟩
  · have failed := exceeds a enabled stretched
    rw [completes a enabled] at failed
    cases failed
  · obtain ⟨_, _, _, failed⟩ := id first
    have listed := stopping_enabled p _ file before b why first b List.mem_concat_self
    obtain ⟨builtin, named, accepted⟩ := validated b (List.mem_filter.mp listed).1
    by_cases stretchedToo : Overstretches b.ruleId (p.view tree)
    · rw [exceeds b listed stretchedToo] at failed
      cases failed
      exact process_tree_stops p tree file before b .overflow first
    · rw [named] at stretchedToo
      have completes := builtin_completes b.rule builtin b.config.options accepted (p.view tree)
        ⟨file.contents, file.path, p.settings, b.ruleId⟩ stretchedToo
      rw [findings, completes] at failed
      cases failed

end

def Stopped (p : Pipeline) (tree : Node) : Prop :=
  p.stripSpans = false ∧ ∃ n ∈ Node.preorderList tree.children, Faulty n

theorem view_collects (p : Pipeline) (tree : Node) :
    (∃ c, Controls.collect (p.view tree) = .ok c) ↔ ¬ p.Stopped tree := by
  rw [view, Stopped]
  cases p.stripSpans with
  | true => simpa using Controls.collect_without_spans tree
  | false => simpa using Controls.collect_succeeds tree

end Pipeline

-- A pass ends in success, or in a failure of the linter itself if the tree is faulty.
def Outcome.EndsBy (faulty : Prop) : Outcome → Prop
  | .success _ => ¬ faulty
  | .configurationError _ | .overflow => False
  | .processingFailure failure =>
      faulty ∧ failure.source = some "marklint" ∧ failure.ruleId = "lint"

namespace Pipeline

theorem validated_ends (p : Pipeline) (validated : p.Validated Registry.builtinRules)
    (tree : Node) (file : LintFile) (short : ¬ p.Overstretched tree) :
    (p.processTree tree file).EndsBy (p.Stopped tree) := by
  have collects := view_collects p tree
  rw [process_tree_completes p tree file (validated_completes p validated tree file short)]
  cases collected : Controls.collect (p.view tree) with
  | ok c => exact collects.mp ⟨c, collected⟩
  | error e =>
      refine ⟨?_, rfl, rfl⟩
      by_cases stopped : p.Stopped tree
      · exact stopped
      · obtain ⟨c, success⟩ := collects.mpr stopped
        rw [collected] at success
        cases success

theorem builtin_passes_end (calls : List Call)
    (builtin : ∀ call ∈ calls, call.Within Registry.builtinRules) (tree : Node)
    (file : LintFile) :
    ((build calls).Overstretched tree ↔ Call.withoutSpans ∉ calls ∧
      (∃ a ∈ (build calls).enabledRules, a.ruleId = "heading-increment") ∧
      Overruns (headings tree)) ∧
    ((build calls).Overstretched tree → (build calls).processTree tree file = .overflow) ∧
    (((build calls).processTree tree file).EndsBy
        (Call.withoutSpans ∉ calls ∧ ∃ n ∈ Node.preorderList tree.children, Faulty n) ↔
      ¬ (build calls).Overstretched tree) ∧
    ((build calls).process file).EndsBy
      (Call.withoutSpans ∉ calls ∧
        ∃ n ∈ Node.preorderList (Markdown.parse file.contents).children, Faulty n) := by
  have validated := build_validated Registry.builtinRules calls builtin
  have strips : ((build calls).stripSpans = false) = (Call.withoutSpans ∉ calls) := by
    rw [← Bool.not_eq_true, build_strips]
  have ends := fun document => validated_ends (build calls) validated document file
  have overflows := validated_overflows (build calls) validated tree file
  simp only [Stopped, strips] at ends
  refine ⟨by rw [Overstretched, strips], overflows, ⟨?_, ends tree⟩, ?_⟩
  · intro ended long
    rw [overflows long] at ended
    exact ended
  · exact ends _ fun long => events_never_overrun _ _ long.2.2

def mixedCalls : List Call :=
  [.attach Rules.noHeadingPunctuation (.withOptions (.keyword "error") (some (.number (.whole 7)))),
    .withSettings [("wide", .bool true)],
    .attach Rules.firstHeadingLevel (.withOptions (.level 1) (some (.number (.whole 2)))),
    .attach Rules.noTabs (.flag true)]

def mutedTree : Node :=
  ⟨.root, none, [
    .leaf (.heading 3) (some ⟨⟨1, 1, 0⟩, ⟨1, 6, 5⟩⟩),
    .leaf (.html "<!--lint mute-->") (some ⟨⟨3, 1, 7⟩, ⟨3, 17, 23⟩⟩)]⟩

theorem builtin_passes_end_muted :
    (∀ call ∈ mixedCalls, call.Within Registry.builtinRules) ∧
    ((build mixedCalls).attached.map (·.rule.id)) = ["first-heading-level", "no-tabs"] ∧
    ¬ (build mixedCalls).Overstretched mutedTree ∧
    (∃ failure, (build mixedCalls).processTree mutedTree ⟨none, "### a\n", []⟩ =
      .processingFailure failure ∧ failure.source = some "marklint") ∧
    ∃ kept, (build (.withoutSpans :: mixedCalls)).processTree mutedTree ⟨none, "### a\n", []⟩ =
      .success kept := by
  have within : ∀ call ∈ mixedCalls, call.Within Registry.builtinRules := by
    simp [mixedCalls, Call.Within, Registry.builtinRules]
  have faulty : ∃ n ∈ Node.preorderList mutedTree.children, Faulty n :=
    ⟨.leaf (.html "<!--lint mute-->") (some ⟨⟨3, 1, 7⟩, ⟨3, 17, 23⟩⟩),
      List.mem_cons_of_mem _ List.mem_cons_self, rfl, "mute", rfl⟩
  have unrelated : ¬ (build mixedCalls).Overstretched mutedTree := by
    rintro ⟨_, ⟨a, enabled, own⟩, _⟩
    rcases List.mem_cons.mp enabled with rfl | other
    · exact absurd own (by decide)
    · rw [List.mem_singleton.mp other] at own
      exact absurd own (by decide)
  refine ⟨within, rfl, unrelated, ?_, ?_⟩
  · have ends := (builtin_passes_end mixedCalls within mutedTree ⟨none, "### a\n", []⟩).2.2.1.mpr
      unrelated
    have kept : Call.withoutSpans ∉ mixedCalls := by simp [mixedCalls]
    cases outcome : (build mixedCalls).processTree mutedTree ⟨none, "### a\n", []⟩ with
    | success file =>
        rw [outcome] at ends
        exact absurd ⟨kept, faulty⟩ ends
    | configurationError e =>
        rw [outcome] at ends
        cases ends
    | processingFailure failure =>
        rw [outcome] at ends
        exact ⟨failure, rfl, ends.2.1⟩
    | overflow =>
        rw [outcome] at ends
        cases ends
  · have ends := (builtin_passes_end (.withoutSpans :: mixedCalls)
      (List.forall_mem_cons.mpr ⟨trivial, within⟩) mutedTree ⟨none, "### a\n", []⟩).2.2.1.mpr
      fun long => absurd long.1 (by decide)
    cases outcome : (build (.withoutSpans :: mixedCalls)).processTree mutedTree
        ⟨none, "### a\n", []⟩ with
    | success file => exact ⟨file, rfl⟩
    | configurationError e =>
        rw [outcome] at ends
        cases ends
    | processingFailure failure =>
        rw [outcome] at ends
        exact absurd List.mem_cons_self ends.1.1
    | overflow =>
        rw [outcome] at ends
        cases ends

theorem steep_headings_overflow :
    (∀ call ∈ [Call.attach Rules.headingIncrement (.flag true)],
      call.Within Registry.builtinRules) ∧
    (∀ n ∈ Node.preorderList steepTree.children, ¬ Faulty n) ∧
    (build [.attach Rules.headingIncrement (.flag true)]).processTree steepTree ⟨none, "", []⟩ =
      .overflow ∧
    ¬ ((build [.attach Rules.headingIncrement (.flag true)]).processTree steepTree
      ⟨none, "", []⟩).EndsBy (∃ n ∈ Node.preorderList steepTree.children, Faulty n) := by
  have ended : (build [.attach Rules.headingIncrement (.flag true)]).processTree steepTree
      ⟨none, "", []⟩ = .overflow := by decide
  refine ⟨by simp [Call.Within, Registry.builtinRules], ?_, ended, ?_⟩
  · rintro n listed ⟨_, word, unknown⟩
    rcases List.mem_cons.mp listed with rfl | other
    · cases unknown
    · rw [List.mem_singleton.mp other] at unknown
      cases unknown
  · rw [ended]
    exact id

end Pipeline

end Proofread.Lint
