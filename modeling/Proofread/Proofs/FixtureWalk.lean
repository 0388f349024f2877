import Proofread.Lint.Rules.RawText
import Proofread.Proofs.BuiltinFixtures
import Proofread.Proofs.ByteOrder
import Proofread.Proofs.FixtureRuns

set_option autoImplicit false

namespace Proofread.Fixture

open Lint (LintError Rule)

inductive Visit where
  | setting (text : String)
  | case (setting name : String) (c : Case)

namespace Visit

def settingText : Visit → String
  | setting text | case text _ _ => text

def name? : Visit → Option String
  | setting _ => none
  | case _ name _ => some name

def case? : Visit → Option (String × String × Case)
  | setting _ => none
  | case text name c => some (text, name, c)

-- By setting; then the visit of the setting itself comes first, and the cases go by name.
def Precedes (a b : Visit) : Prop :=
  Text.bytes a.settingText < Text.bytes b.settingText ∨
    a.settingText = b.settingText ∧ ∃ name, b.name? = some name ∧
      ∀ earlier, a.name? = some earlier → Text.bytes earlier < Text.bytes name

end Visit

def visitsUnder (test : String × NameMap Case) : List Visit :=
  .setting test.1 :: test.2.entries.map fun c => .case test.1 c.1 c.2

theorem visits_under_setting (test : String × NameMap Case) (visit : Visit)
    (listed : visit ∈ visitsUnder test) : visit.settingText = test.1 := by
  rcases List.mem_cons.mp listed with rfl | under
  · rfl
  · obtain ⟨c, _, rfl⟩ := List.mem_map.mp under
    rfl

namespace Descriptor

def walk (d : Descriptor) : List Visit :=
  d.tests.entries.flatMap visitsUnder

def cases (d : Descriptor) : List (String × String × Case) :=
  d.tests.entries.flatMap fun (setting, cases) =>
    cases.entries.map fun (name, c) => (setting, name, c)

def restrict (d : Descriptor) (settings : String → Bool) (names : String → String → Bool) :
    Descriptor :=
  ⟨d.ruleId, (d.tests.filter settings).map fun setting cases => cases.filter (names setting)⟩

theorem walk_cases (d : Descriptor) : d.walk.filterMap Visit.case? = d.cases := by
  rw [walk, cases, List.filterMap_flatMap]
  congr 1
  funext test
  rw [visitsUnder, List.filterMap_cons_none rfl, List.filterMap_map]
  exact congrFun List.filterMap_eq_map test.2.entries

theorem walk_in_order (d : Descriptor) : d.walk.Pairwise Visit.Precedes := by
  rw [walk, List.pairwise_flatMap]
  constructor
  · intro test _
    rw [visitsUnder, List.pairwise_cons]
    constructor
    · intro visit under
      obtain ⟨c, _, rfl⟩ := List.mem_map.mp under
      exact Or.inr ⟨rfl, c.1, rfl, fun earlier none => by cases none⟩
    · rw [List.pairwise_map]
      refine test.2.ordered.imp ?_
      intro a b less
      refine Or.inr ⟨rfl, b.1, rfl, ?_⟩
      intro earlier same
      cases same
      exact (Text.bytes_lt a.1 b.1).mpr less
  · refine d.tests.ordered.imp ?_
    intro a b less x inA y inB
    refine Or.inl ?_
    rw [visits_under_setting a x inA, visits_under_setting b y inB]
    exact (Text.bytes_lt a.1 b.1).mpr less

theorem walk_restrict (d : Descriptor) (settings : String → Bool)
    (names : String → String → Bool) :
    (d.restrict settings names).walk = d.walk.filter fun visit =>
      settings visit.settingText && visit.name?.all (names visit.settingText) := by
  simp only [walk, restrict, NameMap.map, NameMap.filter]
  induction d.tests.entries with
  | nil => rfl
  | cons test rest ih =>
      rw [List.flatMap_cons, List.filter_append, ← ih, List.filter_cons]
      cases kept : settings test.1 with
      | false =>
          have none : (visitsUnder test).filter (fun visit => settings visit.settingText &&
              visit.name?.all (names visit.settingText)) = [] := by
            rw [List.filter_eq_nil_iff]
            intro visit listed
            simp [visits_under_setting test visit listed, kept]
          rw [none, if_neg Bool.false_ne_true, List.nil_append]
      | true =>
          have own : (visitsUnder test).filter (fun visit => settings visit.settingText &&
              visit.name?.all (names visit.settingText)) =
              visitsUnder (test.1, test.2.filter (names test.1)) := by
            rw [visitsUnder, List.filter_cons_of_pos
              (by simp [Visit.settingText, Visit.name?, kept]), List.filter_map]
            simp [visitsUnder, NameMap.filter, Function.comp_def, Visit.settingText, Visit.name?, kept]
          rw [own, if_pos rfl, List.map_cons, List.flatMap_cons]
          rfl

theorem walk_settings (d : Descriptor) (text : String) :
    .setting text ∈ d.walk ↔ ∃ test ∈ d.tests.entries, test.1 = text := by
  rw [walk, List.mem_flatMap]
  simp [visitsUnder, eq_comm]

theorem walk_case_setting (d : Descriptor) (setting name : String) (c : Case)
    (listed : .case setting name c ∈ d.walk) : .setting setting ∈ d.walk := by
  rw [walk_settings]
  obtain ⟨test, present, under⟩ := List.mem_flatMap.mp listed
  exact ⟨test, present, (visits_under_setting test _ under).symm⟩

end Descriptor

inductive Stops (rule : Rule) (ruleId : String) : Visit → LintError → Prop where
  | unreadable (text : String) (fault : Json.ParseError) (invalid : Json.parse text = .error fault) :
      Stops rule ruleId (.setting text)
        (.fixtures ruleId ("setting `" ++ text ++ "`: " ++ fault.message))
  | prevented (setting name : String) (c : Case) (e : LintError)
      (prevents : Prevents rule ruleId setting name c e) :
      Stops rule ruleId (.case setting name c) e

-- What a visit adds to the report. A case under a setting that cannot be read is never visited.
def visited (rule : Rule) (ruleId : String) : Visit → Except LintError (List CaseReport)
  | .setting text => (settingValue ruleId text).map fun _ => []
  | .case setting name c =>
      match Json.parse setting with
      | .error _ => .ok []
      | .ok config => (checkCase rule ruleId setting config name c).map fun report => [report]

section

variable (rule : Rule) (ruleId : String)

theorem check_cases_visited (setting : String) (config : Json.Value)
    (valid : Json.parse setting = .ok config) (cases : List (String × Case)) :
    checkCases rule ruleId setting config cases =
      gathered (visited rule ruleId) (cases.map fun c => .case setting c.1 c.2) := by
  induction cases with
  | nil => rfl
  | cons c rest ih =>
      obtain ⟨name, c⟩ := c
      rw [checkCases, List.map_cons, gathered_cons, ← ih, visited, valid]
      simp only
      cases checkCase rule ruleId setting config name c with
      | error e => rfl
      | ok report =>
          cases checkCases rule ruleId setting config rest <;> rfl

theorem check_tests_visited (tests : List (String × NameMap Case)) :
    checkTests rule ruleId tests = gathered (visited rule ruleId) (tests.flatMap visitsUnder) := by
  induction tests with
  | nil => rfl
  | cons test rest ih =>
      obtain ⟨setting, cases⟩ := test
      rw [checkTests, List.flatMap_cons, gathered_append, visitsUnder, gathered_cons, visited, ih]
      cases read : Json.parse setting with
      | error fault =>
          rw [settingValue, read]
          rfl
      | ok config =>
          rw [settingValue, read]
          simp only [← check_cases_visited rule ruleId setting config read]
          change (do
            let reports ← checkCases rule ruleId setting config cases.entries
            let others ← gathered (visited rule ruleId) (rest.flatMap visitsUnder)
            Except.ok (reports ++ others)) = _
          cases checkCases rule ruleId setting config cases.entries with
          | error e => rfl
          | ok reports =>
              cases gathered (visited rule ruleId) (rest.flatMap visitsUnder) <;> rfl

theorem prevents_readable (setting name : String) (c : Case) (e : LintError)
    (prevents : Prevents rule ruleId setting name c e) :
    ∃ config, Json.parse setting = .ok config := by
  cases prevents with
  | refused config _ valid | halted config _ _ valid | haltedWithout config _ _ _ valid =>
      exact ⟨config, valid⟩

theorem visited_stops (visit : Visit) (e : LintError) :
    visited rule ruleId visit = .error e ↔ Stops rule ruleId visit e := by
  constructor
  · intro failed
    cases visit with
    | setting text =>
        rw [visited, settingValue] at failed
        cases read : Json.parse text with
        | ok config =>
            rw [read] at failed
            cases failed
        | error fault =>
            rw [read] at failed
            cases failed
            exact .unreadable text fault read
    | case setting name c =>
        rw [visited] at failed
        cases read : Json.parse setting with
        | error fault =>
            rw [read] at failed
            cases failed
        | ok config =>
            rw [read] at failed
            have prevented := check_case_prevented rule ruleId setting name c config read
            cases checked : checkCase rule ruleId setting config name c with
            | ok report =>
                simp only [checked] at failed
                cases failed
            | error d =>
                simp only [checked] at failed
                cases failed
                exact .prevented setting name c e ((prevented e).mp checked)
  · intro stops
    cases stops with
    | unreadable text fault invalid =>
        rw [visited, settingValue, invalid]
        rfl
    | prevented setting name c _ prevents =>
        obtain ⟨config, valid⟩ := prevents_readable rule ruleId setting name c e prevents
        have failed := (check_case_prevented rule ruleId setting name c config valid e).mpr prevents
        simp only [visited, valid, failed]
        rfl

theorem visited_setting (text : String) (part : List CaseReport) :
    visited rule ruleId (.setting text) = .ok part ↔
      (∃ config, Json.parse text = .ok config) ∧ part = [] := by
  rw [visited, settingValue]
  cases Json.parse text with
  | error fault => simp [Except.mapError, Except.map]
  | ok config => simp [Except.mapError, Except.map, eq_comm]

theorem visited_case (setting name : String) (c : Case) (part : List CaseReport)
    (readable : ∃ config, Json.parse setting = .ok config) :
    visited rule ruleId (.case setting name c) = .ok part ↔
      ∃ report, Reports rule ruleId setting name c report ∧ part = [report] := by
  obtain ⟨config, valid⟩ := readable
  simp only [visited, valid, ← check_case_reports rule ruleId setting name c config valid]
  cases checkCase rule ruleId setting config name c with
  | error e => simp [Except.map]
  | ok report => simp [Except.map, eq_comm]

theorem visits_reported (visits : List Visit) (reports : List CaseReport)
    (readable : ∀ setting name c, .case setting name c ∈ visits →
      ∃ config, Json.parse setting = .ok config) :
    gathered (visited rule ruleId) visits = .ok reports ↔
      (∀ text, .setting text ∈ visits → ∃ config, Json.parse text = .ok config) ∧
        List.Forall₂ (fun c own => Reports rule ruleId c.1 c.2.1 c.2.2 own)
          (visits.filterMap Visit.case?) reports := by
  induction visits generalizing reports with
  | nil =>
      rw [List.filterMap_nil, List.forall₂_nil_left_iff]
      simp [gathered, Except.map, pure, Except.pure, eq_comm]
  | cons visit rest ih =>
      have later := fun reports => ih reports fun setting name c listed =>
        readable setting name c (List.mem_cons_of_mem visit listed)
      simp only [gathered_cons_ok, later]
      cases visit with
      | setting text =>
          rw [List.filterMap_cons_none rfl]
          simp only [visited_setting, List.mem_cons, Visit.setting.injEq]
          constructor
          · rintro ⟨_, others, ⟨read, rfl⟩, ⟨settings, all⟩, rfl⟩
            refine ⟨?_, all⟩
            rintro other (rfl | listed)
            · exact read
            · exact settings other listed
          · rintro ⟨settings, all⟩
            exact ⟨[], reports, ⟨settings text (.inl rfl), rfl⟩,
              ⟨fun other listed => settings other (.inr listed), all⟩, rfl⟩
      | case setting name c =>
          have here := readable setting name c List.mem_cons_self
          simp only [visited_case rule ruleId setting name c _ here, List.mem_cons,
            reduceCtorEq, false_or]
          have head : (Visit.case setting name c :: rest).filterMap Visit.case? =
              (setting, name, c) :: rest.filterMap Visit.case? := rfl
          rw [head, List.forall₂_cons_left_iff]
          constructor
          · rintro ⟨_, others, ⟨own, first, rfl⟩, ⟨settings, all⟩, rfl⟩
            exact ⟨settings, own, others, first, all, rfl⟩
          · rintro ⟨settings, own, others, first, all, rfl⟩
            exact ⟨[own], others, ⟨own, first, rfl⟩, ⟨settings, all⟩, rfl⟩

theorem check_descriptor_visited (d : Descriptor) :
    checkDescriptor rule d =
      (gathered (visited rule d.ruleId) d.walk).map fun cases => ⟨d.ruleId, cases⟩ := by
  rw [checkDescriptor, check_tests_visited]
  rfl

theorem check_descriptor_reports (d : Descriptor) (report : RuleReport) :
    checkDescriptor rule d = .ok report ↔ report.ruleId = d.ruleId ∧
      (∀ test ∈ d.tests.entries, ∃ config, Json.parse test.1 = .ok config) ∧
        List.Forall₂ (fun c own => Reports rule d.ruleId c.1 c.2.1 c.2.2 own) d.cases
          report.cases := by
  have settings : (∀ test ∈ d.tests.entries, ∃ config, Json.parse test.1 = .ok config) ↔
      ∀ text, .setting text ∈ d.walk → ∃ config, Json.parse text = .ok config := by
    simp only [d.walk_settings]
    constructor
    · rintro each _ ⟨test, listed, rfl⟩
      exact each test listed
    · intro each test listed
      exact each test.1 ⟨test, listed, rfl⟩
  have checked : checkDescriptor rule d = .ok report ↔ report.ruleId = d.ruleId ∧
      gathered (visited rule d.ruleId) d.walk = .ok report.cases := by
    rw [check_descriptor_visited]
    obtain ⟨own, cases⟩ := report
    cases gathered (visited rule d.ruleId) d.walk <;> simp [Except.map, eq_comm]
  rw [checked, settings, ← d.walk_cases]
  have underSetting : (∀ text, .setting text ∈ d.walk → ∃ config, Json.parse text = .ok config) →
      ∀ setting name c, .case setting name c ∈ d.walk → ∃ config, Json.parse setting = .ok config :=
    fun each setting name c listed => each setting (d.walk_case_setting setting name c listed)
  refine and_congr_right fun _ => ⟨?_, ?_⟩
  · intro made
    have each : ∀ text, .setting text ∈ d.walk → ∃ config, Json.parse text = .ok config := by
      intro text listed
      obtain ⟨part, here⟩ := (gathered_total _ d.walk).mp ⟨_, made⟩ (.setting text) listed
      exact ((visited_setting rule d.ruleId text part).mp here).1
    exact (visits_reported rule d.ruleId d.walk report.cases (underSetting each)).mp made
  · rintro ⟨each, all⟩
    exact (visits_reported rule d.ruleId d.walk report.cases (underSetting each)).mpr ⟨each, all⟩

theorem check_descriptor_stops (d : Descriptor) (e : LintError) :
    checkDescriptor rule d = .error e ↔
      ∃ before visit after, d.walk = before ++ visit :: after ∧
        (∀ earlier ∈ before, ∀ other, ¬ Stops rule d.ruleId earlier other) ∧
          Stops rule d.ruleId visit e := by
  have fine : ∀ visit, (∃ part, visited rule d.ruleId visit = .ok part) ↔
      ∀ other, ¬ Stops rule d.ruleId visit other := by
    intro visit
    simp only [← visited_stops]
    cases visited rule d.ruleId visit <;> simp
  have failed : checkDescriptor rule d = .error e ↔
      gathered (visited rule d.ruleId) d.walk = .error e := by
    rw [check_descriptor_visited]
    cases gathered (visited rule d.ruleId) d.walk <;> simp [Except.map]
  rw [failed, gathered_stops]
  simp only [fine, visited_stops]

theorem reports_declared (setting name : String) (c : Case) (own : CaseReport)
    (reports : Reports rule ruleId setting name c own) :
    own.setting = setting ∧ own.name = name ∧ own.withSpans.expected = c.output ∧
      (own.withoutSpans = none ↔ c.positionless = true) ∧
        ∀ bare, own.withoutSpans = some bare → bare.expected = [] := by
  cases reports with
  | once config p texts valid attached shows flag => simp [flag]
  | twice config p texts bare valid attached shows flag stripped => simp [flag]

theorem reports_unique (setting name : String) (c : Case) (own other : CaseReport)
    (reports : Reports rule ruleId setting name c own)
    (again : Reports rule ruleId setting name c other) : other = own := by
  obtain ⟨config, valid⟩ : ∃ config, Json.parse setting = .ok config := by
    cases reports with
    | once config _ _ valid | twice config _ _ _ valid => exact ⟨config, valid⟩
  rw [← check_case_reports rule ruleId setting name c config valid] at reports again
  rw [reports] at again
  exact (Except.ok.inj again).symm

theorem check_descriptor_restricts (d : Descriptor) (settings : String → Bool)
    (names : String → String → Bool) (report : RuleReport)
    (checked : checkDescriptor rule d = .ok report) :
    checkDescriptor rule (d.restrict settings names) = .ok ⟨d.ruleId,
      report.cases.filter fun own => settings own.setting && names own.setting own.name⟩ := by
  rw [check_descriptor_visited] at checked ⊢
  cases made : gathered (visited rule d.ruleId) d.walk with
  | error e =>
      rw [made] at checked
      cases checked
  | ok reports =>
      rw [made] at checked
      cases checked
      have restricted := gathered_filter (visited rule d.ruleId)
        (fun visit => settings visit.settingText && visit.name?.all (names visit.settingText))
        (fun own => settings own.setting && names own.setting own.name) ?_ d.walk reports made
      · rw [d.walk_restrict settings names, show (d.restrict settings names).ruleId = d.ruleId from rfl,
          restricted]
        rfl
      · intro visit part here
        cases visit with
        | setting text =>
            obtain ⟨_, rfl⟩ := (visited_setting rule d.ruleId text part).mp here
            simp
        | case setting name c =>
            cases read : Json.parse setting with
            | error fault =>
                rw [visited, read] at here
                cases here
                simp
            | ok config =>
                obtain ⟨own, reports, rfl⟩ :=
                  (visited_case rule d.ruleId setting name c part ⟨config, read⟩).mp here
                obtain ⟨sameSetting, sameName, _⟩ :=
                  reports_declared rule d.ruleId setting name c own reports
                rw [List.filter_cons, sameSetting, sameName]
                rfl

end

theorem fixtures_checked_in_order (rule : Rule) (d : Descriptor) :
    d.walk.Pairwise Visit.Precedes ∧ d.walk.filterMap Visit.case? = d.cases ∧
    (∀ report, checkDescriptor rule d = .ok report ↔ report.ruleId = d.ruleId ∧
      (∀ test ∈ d.tests.entries, ∃ config, Json.parse test.1 = .ok config) ∧
        List.Forall₂ (fun c own => Reports rule d.ruleId c.1 c.2.1 c.2.2 own) d.cases
          report.cases) ∧
    (∀ e, checkDescriptor rule d = .error e ↔
      ∃ before visit after, d.walk = before ++ visit :: after ∧
        (∀ earlier ∈ before, ∀ other, ¬ Stops rule d.ruleId earlier other) ∧
          Stops rule d.ruleId visit e) ∧
    (∀ setting name c own, Reports rule d.ruleId setting name c own →
      own.setting = setting ∧ own.name = name ∧ own.withSpans.expected = c.output ∧
        (own.withoutSpans = none ↔ c.positionless = true) ∧
        (∀ bare, own.withoutSpans = some bare → bare.expected = []) ∧
          ∀ other, Reports rule d.ruleId setting name c other → other = own) ∧
    ∀ report, checkDescriptor rule d = .ok report → ∀ settings names,
      checkDescriptor rule (d.restrict settings names) = .ok ⟨d.ruleId,
        report.cases.filter fun own => settings own.setting && names own.setting own.name⟩ := by
  refine ⟨d.walk_in_order, d.walk_cases, check_descriptor_reports rule d,
    check_descriptor_stops rule d, ?_, ?_⟩
  · intro setting name c own reports
    obtain ⟨sameSetting, sameName, declared, flag, silent⟩ :=
      reports_declared rule d.ruleId setting name c own reports
    exact ⟨sameSetting, sameName, declared, flag, silent,
      fun other => reports_unique rule d.ruleId setting name c own other reports⟩
  · intro report checked settings names
    exact check_descriptor_restricts rule d settings names report checked

theorem fixtures_checked_in_order_tabs :
    noTabsCases.walk.Pairwise Visit.Precedes ∧
      ∃ withTabs without, withTabs.withSpans.actual ≠ [] ∧ withTabs.withoutSpans = none ∧
        checkDescriptor Lint.Rules.noTabs noTabsCases = .ok ⟨"no-tabs", [withTabs, without]⟩ ∧
        checkDescriptor Lint.Rules.noTabs
            (noTabsCases.restrict (fun _ => true) fun _ name => name == "ok.md") =
          .ok ⟨"no-tabs", [without]⟩ := by
  obtain ⟨inOrder, _, checks, _, declares, restricts⟩ :=
    fixtures_checked_in_order Lint.Rules.noTabs noTabsCases
  have text : (checkDescriptor Lint.Rules.noTabs noTabsCases).toOption.map RuleReport.cases =
      some [⟨"true", "not-ok.md", ⟨["1:1: Use spaces instead of hard-tabs",
          "2:6: Use spaces instead of hard-tabs"], ["1:1: Use spaces instead of hard-tabs",
          "2:6: Use spaces instead of hard-tabs"]⟩, none⟩,
        ⟨"true", "ok.md", ⟨[], []⟩, some ⟨[], []⟩⟩] := by decide +kernel
  cases checked : checkDescriptor Lint.Rules.noTabs noTabsCases with
  | error e =>
      rw [checked] at text
      cases text
  | ok report =>
      rw [checked] at text
      obtain ⟨id, reports⟩ := report
      cases Option.some.inj text
      obtain ⟨rfl, _, all⟩ := (checks _).mp checked
      obtain ⟨_, _, _, flag, _⟩ := declares _ _ _ _ (List.forall₂_cons.mp all).1
      refine ⟨inOrder, _, _, ?_, flag.mpr rfl, rfl, ?_⟩
      · exact List.cons_ne_nil _ _
      · exact restricts _ checked _ _

end Proofread.Fixture
