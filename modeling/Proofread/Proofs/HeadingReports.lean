import Proofread.Lint.Rules.Heading
import Proofread.Proofs.Siblings

set_option autoImplicit false

namespace Proofread.Lint

open Rules (Heading.report)

def headingRules : List Rule :=
  [Rules.noHeadingPunctuation, Rules.noMultipleToplevelHeadings, Rules.headingIncrement,
    Rules.firstHeadingLevel, Rules.noDuplicateHeadings]

-- Every one of the emissions is a report about one of the headings.
def Anchored (all : List Heading) (emissions : List Emission) : Prop :=
  ∀ e ∈ emissions, ∃ heading ∈ all, ∃ reason, e = Heading.report heading reason

@[simp] theorem anchored_nil (all : List Heading) : Anchored all [] :=
  fun _ listed => absurd listed List.not_mem_nil

theorem anchored_cons (heading : Heading) (all : List Heading) (reason : String)
    (emissions : List Emission) (others : Anchored (heading :: all) emissions) :
    Anchored (heading :: all) (Heading.report heading reason :: emissions) := by
  intro e listed
  rcases List.mem_cons.mp listed with first | later
  · exact ⟨heading, List.mem_cons_self, reason, first⟩
  · exact others e later

theorem anchored_more (heading : Heading) (all : List Heading) (emissions : List Emission)
    (anchored : Anchored all emissions) : Anchored (heading :: all) emissions := by
  intro e listed
  obtain ⟨target, known, reason, same⟩ := anchored e listed
  exact ⟨target, List.mem_cons_of_mem heading known, reason, same⟩

theorem first_reports_anchored (expected : UInt8) (all : List Heading) :
    Anchored all (Rules.firstHeadingReports expected all) := by
  cases all with
  | nil => exact anchored_nil []
  | cons first rest =>
      rw [Rules.firstHeadingReports]
      by_cases other : first.depth ≠ expected
      · rw [if_pos other]
        exact anchored_cons first rest _ [] (anchored_nil _)
      · rw [if_neg other]
        exact anchored_nil _

theorem increment_reports_anchored (previous : Option UInt8) (all : List Heading)
    (reports : List Emission) (made : Rules.incrementReports previous all = some reports) :
    Anchored all reports := by
  induction all generalizing previous reports with
  | nil =>
      cases made
      exact anchored_nil []
  | cons heading rest ih =>
      rw [Rules.incrementReports] at made
      obtain ⟨skips, _, made⟩ := Option.bind_eq_some_iff.mp made
      obtain ⟨behind, later, made⟩ := Option.bind_eq_some_iff.mp made
      have others := anchored_more heading rest behind (ih (some heading.depth) behind later)
      cases made
      cases skips with
      | false => exact others
      | true => exact anchored_cons heading rest _ _ others

theorem toplevel_reports_anchored (depth : UInt8) (all : List Heading) :
    Anchored all (Rules.toplevelReports depth all) := by
  intro e listed
  rw [Rules.toplevelReports, List.mem_map] at listed
  obtain ⟨heading, repeated, same⟩ := listed
  exact ⟨heading, (List.mem_filter.mp (List.mem_of_mem_drop repeated)).1, _, same.symm⟩

theorem punctuation_reports_anchored (punctuation : String) (all : List Heading) :
    Anchored all (Rules.punctuationReports punctuation all) := by
  intro e listed
  rw [Rules.punctuationReports, List.mem_filterMap] at listed
  obtain ⟨heading, known, found⟩ := listed
  obtain ⟨last, _, same⟩ := Option.map_eq_some_iff.mp found
  exact ⟨heading, known, _, same.symm⟩

theorem duplicate_reports_anchored (lower : List Char → List Char)
    (seen : List (List Char × Point)) (all : List Heading) :
    Anchored all (Rules.duplicateReports lower seen all) := by
  induction all generalizing seen with
  | nil => exact anchored_nil []
  | cons heading rest ih =>
      have others := fun known => anchored_more heading rest _ (ih known)
      simp only [Rules.duplicateReports]
      cases (Rules.headingKey lower heading).isEmpty with
      | true => exact others seen
      | false =>
          cases seen.lookup (Rules.headingKey lower heading) with
          | none => exact others _
          | some place => exact anchored_cons heading rest _ _ (others seen)

theorem heading_rules_anchored (rule : Rule) (stock : rule ∈ headingRules) (tree : Node)
    (context : RuleContext) (options : Option Json.Value) :
    Anchored (headings tree) (rule.check tree context options).emissions := by
  simp only [headingRules, List.mem_cons, List.not_mem_nil, or_false] at stock
  -- A rule whose options are refused reports nothing before it fails.
  rcases stock with rfl | rfl | rfl | rfl | rfl
  · simp only [Rules.noHeadingPunctuation]
    cases punctuationOption options with
    | error reason => exact anchored_nil _
    | ok punctuation => exact punctuation_reports_anchored punctuation _
  · simp only [Rules.noMultipleToplevelHeadings]
    cases depthOption 1 options with
    | error reason => exact anchored_nil _
    | ok depth => exact toplevel_reports_anchored depth _
  · simp only [Rules.headingIncrement]
    cases made : Rules.incrementReports none (headings tree) with
    | none => exact anchored_nil _
    | some reports => exact increment_reports_anchored none _ reports made
  · simp only [Rules.firstHeadingLevel]
    cases depthOption 1 options with
    | error reason => exact anchored_nil _
    | ok expected => exact first_reports_anchored expected _
  · exact duplicate_reports_anchored Text.lowerCase [] _

theorem heading_fields (n : Node) (heading : Heading) (read : Heading.ofNode? n = some heading) :
    n.headingDepth? = some heading.depth ∧ n.span = some heading.span := by
  simp only [Heading.ofNode?] at read
  cases depth : n.headingDepth? with
  | none =>
      rw [depth] at read
      cases read
  | some d =>
      cases placed : n.span with
      | none =>
          rw [depth, placed] at read
          cases read
      | some span =>
          rw [depth, placed] at read
          cases read
          exact ⟨rfl, rfl⟩

theorem headings_without_spans (tree : Node) : headings tree.withoutSpans = [] := by
  rw [headings, List.filterMap_eq_nil_iff]
  intro n listed
  cases read : Heading.ofNode? n with
  | none => rfl
  | some heading =>
      have placed := (heading_fields n heading read).2
      rw [Node.without_spans_preorder tree n listed] at placed
      cases placed

theorem heading_rules_silent (rule : Rule) (stock : rule ∈ headingRules) (tree : Node)
    (context : RuleContext) (options : Option Json.Value) :
    (rule.check tree.withoutSpans context options).emissions = [] := by
  have anchored := heading_rules_anchored rule stock tree.withoutSpans context options
  rw [headings_without_spans] at anchored
  apply List.eq_nil_iff_forall_not_mem.mpr
  intro e listed
  obtain ⟨heading, known, _⟩ := anchored e listed
  exact absurd known List.not_mem_nil

end Proofread.Lint
