import Proofread.Proofs.FixtureWalk
import Proofread.Proofs.Replay

set_option autoImplicit false

namespace Proofread.Fixture

open Lint (Controls Faulty IgnoredAt LintError LintFile Message Pipeline ProcessingFailure Rule
  Switches)

section

variable (p : Pipeline) (file : LintFile)

-- The directives of a document drop the message: none of them is unknown, and the message starts
-- under an `ignore` or where its rule is switched off.
structure Silenced (m : Message) : Prop where
  withSpans : p.stripSpans = false
  understood : ∀ n ∈ Node.preorderList (Markdown.parse file.contents).children, ¬ Faulty n
  covered : ∃ place, m.start? = some place ∧
    (IgnoredAt (Markdown.parse file.contents) m.ruleId place ∨
      (Switches.replay place (Node.preorderList (Markdown.parse file.contents).children)).isOn
        m.ruleId = false)

theorem silenced_dropped (m : Message) (silenced : Silenced p file m) :
    ∃ c, Controls.collect (p.view (Markdown.parse file.contents)) = .ok c ∧ c.allows m = false := by
  obtain ⟨c, collected⟩ :=
    (Controls.collect_succeeds (Markdown.parse file.contents)).mpr silenced.understood
  obtain ⟨place, start, covered⟩ := silenced.covered
  have kept := Lint.allows_placed (Markdown.parse file.contents) c collected m place start
  have dropped : c.allows m = false := by
    rw [← Bool.not_eq_true, kept]
    rintro ⟨visible, on⟩
    rcases covered with ignored | off
    · exact visible ignored
    · rw [on] at off
      cases off
  exact ⟨c, by rw [Pipeline.view, silenced.withSpans]; exact collected, dropped⟩

theorem dropped_silenced (m : Message) (c : Controls)
    (collected : Controls.collect (p.view (Markdown.parse file.contents)) = .ok c)
    (dropped : c.allows m = false) : Silenced p file m := by
  rw [Pipeline.view] at collected
  cases spans : p.stripSpans with
  | true =>
      rw [spans, if_pos rfl, Controls.collect_nothing] at collected
      cases collected
      rw [Controls.empty_allows Controls.empty rfl m] at dropped
      cases dropped
  | false =>
      rw [spans, if_neg Bool.false_ne_true] at collected
      cases start : m.start? with
      | none =>
          rw [Controls.allows, start] at dropped
          cases dropped
      | some place =>
          have kept := Lint.allows_placed (Markdown.parse file.contents) c collected m place start
          rw [← Bool.not_eq_true, kept, not_and_or, not_not, Bool.not_eq_true] at dropped
          exact ⟨spans, (Controls.collect_succeeds _).mp ⟨c, collected⟩, place, start, dropped⟩

theorem leaves_messages (fresh : file.messages = []) (kept : LintFile)
    (failure : Option ProcessingFailure) (leaves : Leaves p file kept failure) (m : Message) :
    m ∈ kept.messages ↔ m ∈ p.emittedIn file ∧ ¬ Silenced p file m := by
  have completes := (leaves_completes p file).mp ⟨kept, failure, leaves⟩
  rcases p.process_completes file completes with
    ⟨c, collected, passed⟩ | ⟨e, other, broken, failed, _, left⟩
  · have visible : c.allows m = true ↔ ¬ Silenced p file m := by
      rw [← Bool.not_eq_false, not_iff_not]
      constructor
      · exact dropped_silenced p file m c collected
      · intro silenced
        obtain ⟨again, collectedToo, dropped⟩ := silenced_dropped p file m silenced
        rw [collected] at collectedToo
        cases collectedToo
        exact dropped
    cases leaves with
    | passed _ ended =>
        rw [passed] at ended
        cases ended
        rw [List.mem_filter, fresh, List.nil_append, visible]
    | engineFailed _ ended =>
        rw [passed] at ended
        cases ended
  · have visible : ¬ Silenced p file m := by
      intro silenced
      obtain ⟨c, collected, _⟩ := silenced_dropped p file m silenced
      rw [broken] at collected
      cases collected
    cases leaves with
    | passed _ ended =>
        rw [failed] at ended
        cases ended
    | engineFailed _ ended =>
        rw [failed] at ended
        cases ended
        rw [left, LintFile.append, fresh, List.nil_append]
        exact ⟨fun emitted => ⟨emitted, visible⟩, And.left⟩

structure Accepted (ruleId : String) : Prop where
  completes : p.Completes (p.view (Markdown.parse file.contents)) file p.enabledRules
  owned : ∀ m ∈ p.emittedIn file, m.ruleId = ruleId ∨ Silenced p file m

theorem accepted_shows (ruleId : String) (fresh : file.messages = []) :
    (∃ texts, Shows ruleId p file texts) ↔ Accepted p file ruleId := by
  constructor
  · rintro ⟨texts, kept, failure, leaves, own, _⟩
    refine ⟨(leaves_completes p file).mp ⟨kept, failure, leaves⟩, fun m emitted => ?_⟩
    by_cases silenced : Silenced p file m
    · exact Or.inr silenced
    · exact Or.inl (own m ((leaves_messages p file fresh kept failure leaves m).mpr
        ⟨emitted, silenced⟩))
  · intro accepted
    obtain ⟨kept, failure, leaves⟩ := (leaves_completes p file).mpr accepted.completes
    refine ⟨_, kept, failure, leaves, fun m listed => ?_, rfl⟩
    obtain ⟨emitted, visible⟩ := (leaves_messages p file fresh kept failure leaves m).mp listed
    exact (accepted.owned m emitted).resolve_right visible

end

def caseRuns (p : Pipeline) (c : Case) : List Pipeline :=
  if c.positionless then [p] else [p, p.withoutSpans]

inductive Ran (rule : Rule) (d : Descriptor) : Pipeline → LintFile → Prop where
  | run (setting name : String) (c : Case) (config : Json.Value) (p q : Pipeline)
      (listed : (setting, name, c) ∈ d.cases) (valid : Json.parse setting = .ok config)
      (attached : casePipeline rule config c = .ok p) (ran : q ∈ caseRuns p c) :
      Ran rule d q (caseFile name c)

theorem reports_accepted (rule : Rule) (ruleId setting name : String) (c : Case) :
    (∃ own, Reports rule ruleId setting name c own) ↔
      ∃ config p, Json.parse setting = .ok config ∧ casePipeline rule config c = .ok p ∧
        ∀ q ∈ caseRuns p c, Accepted q (caseFile name c) ruleId := by
  have fresh : (caseFile name c).messages = [] := rfl
  simp only [← accepted_shows _ _ _ fresh]
  constructor
  · rintro ⟨own, reports⟩
    cases reports with
    | once config p texts valid attached shows flag =>
        refine ⟨config, p, valid, attached, ?_⟩
        rw [caseRuns, flag, if_pos rfl, List.forall_mem_singleton]
        exact ⟨texts, shows⟩
    | twice config p texts bare valid attached shows flag stripped =>
        refine ⟨config, p, valid, attached, ?_⟩
        rw [caseRuns, flag, if_neg Bool.false_ne_true, List.forall_mem_cons,
          List.forall_mem_singleton]
        exact ⟨⟨texts, shows⟩, bare, stripped⟩
  · rintro ⟨config, p, valid, attached, each⟩
    cases flag : c.positionless with
    | true =>
        rw [caseRuns, flag, if_pos rfl, List.forall_mem_singleton] at each
        obtain ⟨texts, shows⟩ := each
        exact ⟨_, .once config p texts valid attached shows flag⟩
    | false =>
        rw [caseRuns, flag, if_neg Bool.false_ne_true, List.forall_mem_cons,
          List.forall_mem_singleton] at each
        obtain ⟨⟨texts, shows⟩, bare, stripped⟩ := each
        exact ⟨_, .twice config p texts bare valid attached shows flag stripped⟩

theorem descriptor_accepted (rule : Rule) (d : Descriptor) :
    (∃ report, checkDescriptor rule d = .ok report) ↔
      (∀ test ∈ d.tests.entries, ∃ config, Json.parse test.1 = .ok config) ∧
        ∀ c ∈ d.cases, ∃ config p, Json.parse c.1 = .ok config ∧
          casePipeline rule config c.2.2 = .ok p ∧
            ∀ q ∈ caseRuns p c.2.2, Accepted q (caseFile c.2.1 c.2.2) d.ruleId := by
  simp only [check_descriptor_reports, ← reports_accepted, ← related_each]
  constructor
  · rintro ⟨report, _, readable, all⟩
    exact ⟨readable, report.cases, all⟩
  · rintro ⟨readable, reports, all⟩
    exact ⟨⟨d.ruleId, reports⟩, rfl, readable, all⟩

theorem run_accepted (rule : Rule) (d : Descriptor) (report : RuleReport)
    (checked : checkDescriptor rule d = .ok report) (p : Pipeline) (file : LintFile)
    (ran : Ran rule d p file) : Accepted p file d.ruleId := by
  cases ran with
  | run setting name c config q _ listed valid attached ran =>
      obtain ⟨again, p, validToo, attachedToo, accepted⟩ :=
        ((descriptor_accepted rule d).mp ⟨report, checked⟩).2 (setting, name, c) listed
      rw [valid] at validToo
      cases validToo
      rw [attached] at attachedToo
      cases attachedToo
      exact accepted _ ran

theorem foreign_messages_caught (rule : Rule) (d : Descriptor) :
    ((∃ report, checkDescriptor rule d = .ok report) ↔
      (∀ test ∈ d.tests.entries, ∃ config, Json.parse test.1 = .ok config) ∧
        ∀ c ∈ d.cases, ∃ config p, Json.parse c.1 = .ok config ∧
          casePipeline rule config c.2.2 = .ok p ∧
            ∀ q ∈ caseRuns p c.2.2, Accepted q (caseFile c.2.1 c.2.2) d.ruleId) ∧
    (∀ p file, Ran rule d p file → ∀ m ∈ p.emittedIn file, m.ruleId ≠ d.ruleId →
      ¬ Silenced p file m → ∃ e, checkDescriptor rule d = .error e) ∧
    ∀ report, checkDescriptor rule d = .ok report →
      ((∀ p file, Ran rule d p file → ∀ m ∈ p.emittedIn file, m.ruleId = d.ruleId) ↔
        ∀ p file, Ran rule d p file → ∀ m ∈ p.emittedIn file, Silenced p file m →
          m.ruleId = d.ruleId) := by
  refine ⟨descriptor_accepted rule d, ?_, ?_⟩
  · intro p file ran m emitted foreign visible
    cases checked : checkDescriptor rule d with
    | error e => exact ⟨e, rfl⟩
    | ok report =>
        rcases (run_accepted rule d report checked p file ran).owned m emitted with own | silenced
        · exact absurd own foreign
        · exact absurd silenced visible
  · intro report checked
    constructor
    · intro owned p file ran m emitted _
      exact owned p file ran m emitted
    · intro hidden p file ran m emitted
      rcases (run_accepted rule d report checked p file ran).owned m emitted with own | silenced
      · exact own
      · exact hidden p file ran m emitted silenced

def impostor : Rule where
  id := "tidy"
  description := "Documents should be tidy"
  defaultSeverity := .warn
  validate := Lint.acceptAll
  check _ _ _ := .ofEmissions
    [.push { Message.plain "foreign" "Bad" with location := some (.point ⟨3, 1, 21⟩) }]

def mutedCase (positionless : Bool) : Case :=
  ⟨"<!--lint disable-->\n\nb\n", positionless, [], []⟩

def mutedCases (positionless : Bool) : Descriptor :=
  ⟨"tidy", .insert .empty "true" (.insert .empty "a.md" (mutedCase positionless))⟩

theorem impostor_runs (positionless : Bool) :
    ∃ p m, Ran impostor (mutedCases positionless) p (caseFile "a.md" (mutedCase positionless)) ∧
      m ∈ p.emittedIn (caseFile "a.md" (mutedCase positionless)) ∧ m.ruleId ≠ "tidy" ∧
        p.stripSpans = !positionless := by
  cases positionless with
  | true =>
      exact ⟨_, _, .run "true" "a.md" _ (.bool true) _ _ List.mem_cons_self rfl rfl
        List.mem_cons_self, List.mem_cons_self, by decide, rfl⟩
  | false =>
      exact ⟨_, _, .run "true" "a.md" _ (.bool true) _ _ List.mem_cons_self rfl rfl
        (List.mem_cons_of_mem _ List.mem_cons_self), List.mem_cons_self, by decide, rfl⟩

theorem impostor_accepted : ∃ report, checkDescriptor impostor (mutedCases true) = .ok report := by
  have none : (checkDescriptor impostor (mutedCases true)).toOption.isSome = true := by
    decide +kernel
  cases checked : checkDescriptor impostor (mutedCases true) with
  | ok report => exact ⟨report, rfl⟩
  | error e =>
      rw [checked] at none
      cases none

theorem foreign_messages_caught_muted :
    (∃ p file m, Ran impostor (mutedCases false) p file ∧ m ∈ p.emittedIn file ∧
      m.ruleId ≠ "tidy" ∧ ¬ Silenced p file m) ∧
    (∃ e, checkDescriptor impostor (mutedCases false) = .error e) ∧
    ∃ report, checkDescriptor impostor (mutedCases true) = .ok report ∧
      ∃ p file m, Ran impostor (mutedCases true) p file ∧ m ∈ p.emittedIn file ∧
        Silenced p file m ∧ m.ruleId ≠ "tidy" := by
  obtain ⟨bare, m, ran, emitted, foreign, stripped⟩ := impostor_runs false
  have visible : ¬ Silenced bare (caseFile "a.md" (mutedCase false)) m := by
    intro silenced
    rw [silenced.withSpans] at stripped
    cases stripped
  obtain ⟨_, caught, _⟩ := foreign_messages_caught impostor (mutedCases false)
  obtain ⟨report, checked⟩ := impostor_accepted
  obtain ⟨_, _, exactly⟩ := foreign_messages_caught impostor (mutedCases true)
  have hidden : ∃ p file m, Ran impostor (mutedCases true) p file ∧ m ∈ p.emittedIn file ∧
      Silenced p file m ∧ m.ruleId ≠ "tidy" := by
    by_contra none
    have owned := (exactly report checked).mpr fun p file ran m emitted silenced => by
      by_contra foreign
      exact none ⟨p, file, m, ran, emitted, silenced, foreign⟩
    obtain ⟨p, m, ran, emitted, foreign, _⟩ := impostor_runs true
    exact foreign (owned p _ ran m emitted)
  exact ⟨⟨_, _, _, ran, emitted, foreign, visible⟩, caught _ _ ran m emitted foreign visible,
    report, checked, hidden⟩

theorem impostor_passes :
    ∃ report p file m, checkDescriptor impostor (mutedCases true) = .ok report ∧
      Ran impostor (mutedCases true) p file ∧ m ∈ p.emittedIn file ∧
        m.ruleId ≠ (mutedCases true).ruleId := by
  obtain ⟨report, checked⟩ := impostor_accepted
  obtain ⟨p, m, ran, emitted, foreign, _⟩ := impostor_runs true
  exact ⟨report, p, _, m, checked, ran, emitted, foreign⟩

end Proofread.Fixture
